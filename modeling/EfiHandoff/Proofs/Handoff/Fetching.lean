import EfiHandoff.Handoff.Pending
import EfiHandoff.Proofs.Platform.Memory

/-!
# How a file is fetched

The ways a file comes to be read into pages, or not, each with its history. The file is open for as long as
anything is asked about it.
-/

set_option autoImplicit false

namespace EfiHandoff

open Platform

def Platform.Call.ReadsFile : Platform.Call → Prop
  | .openFile _ | .rootDevice | .readFile _ _ | .closeFile _ | .allocatePages _ _
  | .freePages _ _ => True
  | _ => False

section Steps

variable {settings : Settings} {name : List Char} {history : History platform}

theorem requireRoot_follows {verdict : Except BootError (Handle × Bytes)}
    (follows : requireRoot.Follows history verdict) :
    ∃ root, history = [⟨.rootDevice, root⟩] ∧
      ∀ device path, verdict = .ok (device, path) → root = some ⟨device, some path⟩ := by
  obtain ⟨root, later, rfl, answered⟩ := Attempt.follows_ask.mp follows
  clear follows
  refine ⟨root, ?_⟩
  rcases root with _ | ⟨handle, _ | path⟩
  · obtain ⟨rfl, rfl⟩ := Attempt.follows_fail.mp answered
    exact ⟨rfl, by simp⟩
  · obtain ⟨rfl, rfl⟩ := Attempt.follows_fail.mp answered
    exact ⟨rfl, by simp⟩
  · obtain ⟨rfl, rfl⟩ := Attempt.follows_pure.mp answered
    refine ⟨rfl, ?_⟩
    intro device found same
    cases same
    rfl

theorem buildPath_follows {limit : MemoryLimit} {device : Bytes} {verdict : Except BootError Bytes}
    (follows : (buildPath limit device name).Follows history verdict) :
    history = [] ∧ verdict = Fault.simplify (DevicePath.ofFile limit device name) := by
  unfold buildPath at follows
  rw [Attempt.follows_report_bind] at follows
  obtain ⟨error, failed, rfl⟩ | ⟨path, first, second, built, naming, rfl⟩ :=
    Attempt.follows_bind.mp follows
  · exact Attempt.follows_checked.mp failed
  obtain ⟨rfl, same⟩ := Attempt.follows_checked.mp built
  have reported : second = [] ∧ verdict = .ok path := by
    cases components : DevicePath.components path with
    | error fault =>
        rw [components] at naming
        exact Attempt.follows_pure.mp (Attempt.follows_report_bind.mp naming)
    | ok names =>
        rw [components] at naming
        exact Attempt.follows_pure.mp (Attempt.follows_report_bind.mp naming)
  obtain ⟨rfl, rfl⟩ := reported
  exact ⟨rfl, same⟩

theorem acceptSize_follows {size : UInt64} {verdict : Except BootError Nat}
    (follows : (acceptSize settings name size).Follows history verdict) :
    history = [] ∧ ∀ accepted, verdict = .ok accepted → accepted = size.toNat := by
  unfold acceptSize at follows
  split at follows
  · obtain ⟨rfl, rfl⟩ := Attempt.follows_fail.mp follows
    exact ⟨rfl, by simp⟩
  split at follows
  · obtain ⟨rfl, rfl⟩ := Attempt.follows_fail.mp follows
    exact ⟨rfl, by simp⟩
  · obtain ⟨rfl, rfl⟩ := Attempt.follows_pure.mp follows
    refine ⟨rfl, ?_⟩
    intro accepted same
    cases same
    rfl

end Steps

/-- The ways pages come to hold the first `size` bytes of a file, or not. -/
inductive PageReading (file : OpenFile) (size : Nat) :
    History platform → Except BootError PageRange → Prop where
  | ungranted {status : Status} :
      PageReading file size [⟨.allocatePages .code (pagesFor size), .error status⟩]
        (.error .outOfMemory)
  | atZero {grant : Grant} {freed : Status} (zero : grant.address = 0) :
      PageReading file size [⟨.allocatePages .code (pagesFor size), .ok grant⟩,
        ⟨.freePages grant.address (pagesFor size), freed⟩] (.error .outOfMemory)
  | unread {grant : Grant} {bytes : Buffer} {error : FileError} {freed : Status} :
      PageReading file size [⟨.allocatePages .code (pagesFor size), .ok grant⟩,
        ⟨.readFile file size, ⟨bytes, some error⟩⟩,
        ⟨.freePages grant.address (pagesFor size), freed⟩] (.error error.bootError)
  | filled {grant : Grant} {bytes : Buffer} :
      PageReading file size [⟨.allocatePages .code (pagesFor size), .ok grant⟩,
        ⟨.readFile file size, ⟨bytes, none⟩⟩] (.ok ⟨grant.address, pagesFor size, bytes⟩)

theorem readPages_follows {name : List Char} {file : OpenFile} {size : Nat}
    {history : History platform} {verdict : Except BootError PageRange}
    (follows : (readPages name file size).Follows history verdict) :
    PageReading file size history verdict := by
  obtain ⟨error, failed, rfl⟩ | ⟨⟨pages, grant⟩, first, second, reserved, reading, rfl⟩ :=
    Attempt.follows_bind.mp follows
  · obtain ⟨status, rfl, ⟨⟩⟩ | ⟨grant, freed, zero, rfl, ⟨⟩⟩ | ⟨grant, -, ⟨⟩⟩ :=
      PageRange.reserve_follows failed
    · exact .ungranted
    · exact .atZero zero
  obtain ⟨_, _, ⟨⟩⟩ | ⟨_, _, _, _, ⟨⟩⟩ | ⟨grant, rfl, ⟨⟩⟩ := PageRange.reserve_follows reserved
  obtain ⟨filled, read, rfl⟩ | ⟨error, early, late, failed, released, rfl, rfl⟩ :=
    Attempt.follows_onFailure.mp reading
  · obtain ⟨⟨bytes, failure⟩, later, rfl, ended⟩ := Attempt.follows_ask.mp read
    cases failure with
    | none =>
        obtain ⟨rfl, ⟨⟩⟩ := Attempt.follows_pure.mp ended
        exact .filled
    | some error => cases (Attempt.follows_fail.mp ended).2
  · obtain ⟨freed, rfl⟩ := PageRange.release_follows released
    obtain ⟨⟨bytes, failure⟩, later, rfl, ended⟩ := Attempt.follows_ask.mp failed
    cases failure with
    | none => cases (Attempt.follows_pure.mp ended).2
    | some reason =>
        obtain ⟨rfl, ⟨⟩⟩ := Attempt.follows_fail.mp ended
        exact .unread

inductive Fetching (limit : MemoryLimit) (name : List Char) :
    History platform → Except BootError (Handle × Bytes × PageRange) → Prop where
  | unopened {error : FileError} :
      Fetching limit name [⟨.openFile name, .error error⟩] (.error error.bootError)
  /-- There is no root device, or no path for the file on it, or the size of the file is not accepted. -/
  | unplaced {file : OpenFile} {root : Option RootDevice} {error : BootError} :
      Fetching limit name [⟨.openFile name, .ok file⟩, ⟨.rootDevice, root⟩, ⟨.closeFile file, ()⟩]
        (.error error)
  | unfilled {file : OpenFile} {root : Option RootDevice} {reading : History platform}
      {error : BootError} (failed : PageReading file file.size.toNat reading (.error error)) :
      Fetching limit name (⟨.openFile name, .ok file⟩ :: ⟨.rootDevice, root⟩ ::
        (reading ++ [⟨.closeFile file, ()⟩])) (.error error)
  | fetched {file : OpenFile} {device : Handle} {devicePath path : Bytes}
      {reading : History platform} {pages : PageRange}
      (built : DevicePath.ofFile limit devicePath name = .ok path)
      (filled : PageReading file file.size.toNat reading (.ok pages)) :
      Fetching limit name (⟨.openFile name, .ok file⟩ ::
          ⟨.rootDevice, some ⟨device, some devicePath⟩⟩ :: (reading ++ [⟨.closeFile file, ()⟩]))
        (.ok (device, path, pages))

section Fetch

variable {limit : MemoryLimit} {settings : Settings} {name : List Char} {history : History platform}
  {verdict : Except BootError (Handle × Bytes × PageRange)}

theorem reading_follows {file : OpenFile}
    (follows : Attempt.Follows (do
      let (device, devicePath) ← requireRoot
      let path ← buildPath limit devicePath name
      let size ← acceptSize settings name file.size
      let pages ← readPages name file size
      return (device, path, pages)) history verdict) :
    ∃ root reading, history = ⟨.rootDevice, root⟩ :: reading ∧
      ((∃ error, verdict = .error error ∧
          (reading = [] ∨ PageReading file file.size.toNat reading (.error error))) ∨
        ∃ device devicePath path pages, root = some ⟨device, some devicePath⟩ ∧
          DevicePath.ofFile limit devicePath name = .ok path ∧
          PageReading file file.size.toNat reading (.ok pages) ∧
          verdict = .ok (device, path, pages)) := by
  obtain ⟨error, failed, rfl⟩ | ⟨⟨device, devicePath⟩, first, later, rooted, building, rfl⟩ :=
    Attempt.follows_bind.mp follows
  · obtain ⟨root, rfl, -⟩ := requireRoot_follows failed
    exact ⟨root, [], rfl, .inl ⟨error, rfl, .inl rfl⟩⟩
  obtain ⟨root, rfl, placed⟩ := requireRoot_follows rooted
  refine ⟨root, later, rfl, ?_⟩
  obtain ⟨error, failed, rfl⟩ | ⟨path, first, later, built, accepting, rfl⟩ :=
    Attempt.follows_bind.mp building
  · exact .inl ⟨error, rfl, .inl (buildPath_follows failed).1⟩
  obtain ⟨rfl, same⟩ := buildPath_follows built
  obtain ⟨error, failed, rfl⟩ | ⟨size, first, later, accepted, reading, rfl⟩ :=
    Attempt.follows_bind.mp accepting
  · exact .inl ⟨error, rfl, .inl (acceptSize_follows failed).1⟩
  obtain ⟨rfl, sized⟩ := acceptSize_follows accepted
  obtain rfl := sized size rfl
  obtain ⟨error, failed, rfl⟩ | ⟨pages, first, later, filled, ended, rfl⟩ :=
    Attempt.follows_bind.mp reading
  · exact .inl ⟨error, rfl, .inr (readPages_follows failed)⟩
  obtain ⟨rfl, rfl⟩ := Attempt.follows_pure.mp ended
  rw [List.append_nil]
  exact .inr ⟨device, devicePath, path, pages, placed device devicePath rfl,
    Fault.simplify_eq_ok_iff.mp same.symm, readPages_follows filled, rfl⟩

theorem fetch_follows (follows : (fetch limit settings name).Follows history verdict) :
    Fetching limit name history verdict := by
  obtain ⟨opened, later, rfl, using_⟩ := Attempt.follows_ask.mp follows
  clear follows
  cases opened with
  | error error =>
      obtain ⟨rfl, rfl⟩ := Attempt.follows_fail.mp using_
      exact .unopened
  | ok file =>
      obtain ⟨body, last, used, closed, rfl⟩ := Attempt.follows_ensuring.mp using_
      obtain rfl := Program.follows_call.mp closed
      obtain ⟨root, reading, rfl, ⟨error, rfl, rfl | failed⟩ |
          ⟨device, devicePath, path, pages, rfl, built, filled, rfl⟩⟩ := reading_follows used
      · exact .unplaced
      · exact .unfilled failed
      · exact .fetched built filled

theorem PageReading.reads {file : OpenFile} {size : Nat} {verdict : Except BootError PageRange}
    (reading : PageReading file size history verdict) :
    ∀ exchange ∈ history, Call.ReadsFile exchange.call := by
  cases reading <;> simp [Call.ReadsFile]

theorem Fetching.reads (fetching : Fetching limit name history verdict) :
    ∀ exchange ∈ history, Call.ReadsFile exchange.call := by
  cases fetching with
  | unopened | unplaced => simp [Call.ReadsFile]
  | unfilled reading | fetched _ reading =>
      exact List.forall_mem_cons.mpr ⟨trivial, List.forall_mem_cons.mpr ⟨trivial,
        List.forall_mem_append.mpr ⟨reading.reads, by simp [Call.ReadsFile]⟩⟩⟩

end Fetch

end EfiHandoff
