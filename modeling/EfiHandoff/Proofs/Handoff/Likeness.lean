import EfiHandoff.Handoff.Start
import EfiHandoff.Proofs.Bounds
import EfiHandoff.Proofs.Program.Coupling

/-!
# Sessions that differ in their file

Two sessions with files of different contents, which are found under the same name and handle. What is said about
the files and the memory for them differs; everything else is asked and answered in the same words.
-/

set_option autoImplicit false

namespace EfiHandoff

open Platform

def Platform.Call.Shared : Platform.Call → Prop
  | .openFile _ | .readFile _ _ | .closeFile _ | .allocatePages _ _ | .freePages _ _ | .allocatePool _ _ => False
  | _ => True

/-- One file is open in each of two sessions, under the same handle and with the size of its contents. -/
structure SameFile (container image : Buffer) (left right : OpenFile) : Prop where
  handle : left.handle = right.handle
  left : left.size.toNat = container.size
  right : right.size.toNat = image.size

/-- Exchanges of two sessions, of which the one has `container` for its file where the other has `image`. Both
files are found under the same handle, and memory at the same addresses; what it held before does not matter. -/
inductive Alike (container image : Buffer) : Exchange platform → Exchange platform → Prop
  | shared {exchange : Exchange platform} (shared : exchange.call.Shared) : Alike container image exchange exchange
  | unopened {name : List Char} {error : FileError} :
      Alike container image ⟨.openFile name, .error error⟩ ⟨.openFile name, .error error⟩
  | opened {name : List Char} {left right : OpenFile} (same : SameFile container image left right) :
      Alike container image ⟨.openFile name, .ok left⟩ ⟨.openFile name, .ok right⟩
  | unread {left right : OpenFile} {before others : Buffer} {error : FileError}
      (same : SameFile container image left right) :
      Alike container image ⟨.readFile left container.size, ⟨before, some error⟩⟩
        ⟨.readFile right image.size, ⟨others, some error⟩⟩
  | read {left right : OpenFile} (same : SameFile container image left right) :
      Alike container image ⟨.readFile left container.size, ⟨container, none⟩⟩
        ⟨.readFile right image.size, ⟨image, none⟩⟩
  | closed {left right : OpenFile} (same : SameFile container image left right) :
      Alike container image ⟨.closeFile left, ()⟩ ⟨.closeFile right, ()⟩
  | unreserved {kind : MemoryKind} {status : Status} :
      Alike container image ⟨.allocatePages kind (pagesFor container.size), .error status⟩
        ⟨.allocatePages kind (pagesFor image.size), .error status⟩
  | reserved {kind : MemoryKind} {grant other : Grant} (place : grant.address = other.address) :
      Alike container image ⟨.allocatePages kind (pagesFor container.size), .ok grant⟩
        ⟨.allocatePages kind (pagesFor image.size), .ok other⟩
  | freed {address : UInt64} {status : Status} :
      Alike container image ⟨.freePages address (pagesFor container.size), status⟩
        ⟨.freePages address (pagesFor image.size), status⟩
  | ungranted {kind : MemoryKind} {size : Nat} {status : Status} :
      Alike container image ⟨.allocatePool kind size, .error status⟩ ⟨.allocatePool kind size, .error status⟩
  | granted {kind : MemoryKind} {size : Nat} {grant other : Grant} (place : grant.address = other.address) :
      Alike container image ⟨.allocatePool kind size, .ok grant⟩ ⟨.allocatePool kind size, .ok other⟩

namespace Alike

variable {container image : Buffer} {left right : Exchange platform} {file other : OpenFile} {name : List Char}
  {kind : MemoryKind} {size length : Nat} {address : UInt64}

private theorem eq_of_shared (alike : Alike container image left right)
    (shared : left.call.Shared ∨ right.call.Shared) :
    left = right := by
  cases alike with
  | shared => rfl
  | _ => exact absurd shared (not_or.mpr ⟨not_false, not_false⟩)

/-- Where one session asks something shared, the other does, and both are told the same. -/
theorem shared_at {lefts rights : History platform} (alike : List.Forall₂ (Alike container image) lefts rights)
    (place : Nat) {exchange : Exchange platform} (shared : exchange.call.Shared) :
    lefts[place]? = some exchange ↔ rights[place]? = some exchange := by
  induction alike generalizing place with
  | nil => rfl
  | cons first rest ih =>
      cases place with
      | zero =>
          rw [List.getElem?_cons_zero, List.getElem?_cons_zero]
          constructor
          · intro same
            obtain rfl := Option.some.inj same
            rw [first.eq_of_shared (.inl shared)]
          · intro same
            obtain rfl := Option.some.inj same
            rw [first.eq_of_shared (.inr shared)]
      | succ place => exact ih place

theorem openFile_replies {reply answer : Except FileError OpenFile}
    (alike : Alike container image ⟨.openFile name, reply⟩ ⟨.openFile name, answer⟩) :
    (∃ error, reply = .error error ∧ answer = .error error) ∨
      ∃ left right, reply = .ok left ∧ answer = .ok right ∧ SameFile container image left right := by
  cases alike with
  | shared shared => exact absurd shared not_false
  | unopened => exact .inl ⟨_, rfl, rfl⟩
  | opened same => exact .inr ⟨_, _, rfl, rfl, same⟩

theorem readFile_replies {reply answer : Delivery}
    (alike : Alike container image ⟨.readFile file size, reply⟩ ⟨.readFile other length, answer⟩) :
    (∃ before others error, reply = ⟨before, some error⟩ ∧ answer = ⟨others, some error⟩) ∨
      reply = ⟨container, none⟩ ∧ answer = ⟨image, none⟩ := by
  cases alike with
  | shared shared => exact absurd shared not_false
  | unread => exact .inl ⟨_, _, _, rfl, rfl⟩
  | read => exact .inr ⟨rfl, rfl⟩

theorem allocatePages_replies {reply answer : Except Status Grant}
    (alike : Alike container image ⟨.allocatePages kind size, reply⟩ ⟨.allocatePages kind length, answer⟩) :
    (∃ status, reply = .error status ∧ answer = .error status) ∨
      ∃ grant other, reply = .ok grant ∧ answer = .ok other ∧ grant.address = other.address := by
  cases alike with
  | shared shared => exact absurd shared not_false
  | unreserved => exact .inl ⟨_, rfl, rfl⟩
  | reserved place => exact .inr ⟨_, _, rfl, rfl, place⟩

theorem freePages_replies {reply answer : Status}
    (alike : Alike container image ⟨.freePages address size, reply⟩ ⟨.freePages address length, answer⟩) :
    reply = answer := by
  cases alike with
  | shared shared => exact absurd shared not_false
  | freed => rfl

theorem allocatePool_replies {reply answer : Except Status Grant}
    (alike : Alike container image ⟨.allocatePool kind size, reply⟩ ⟨.allocatePool kind size, answer⟩) :
    (∃ status, reply = .error status ∧ answer = .error status) ∨
      ∃ grant other, reply = .ok grant ∧ answer = .ok other ∧ grant.address = other.address := by
  cases alike with
  | shared shared => exact absurd shared not_false
  | ungranted => exact .inl ⟨_, rfl, rfl⟩
  | granted place => exact .inr ⟨_, _, rfl, rfl, place⟩

end Alike

theorem settles_of_shared {container image : Buffer} {call : Platform.Call} (shared : call.Shared) :
    Program.Settles (Alike container image) call := by
  constructor
  · cases call with
    | openFile | readFile | closeFile | allocatePages | freePages | allocatePool => exact absurd shared not_false
    | freePool | unloadImage | callEntry => exact ⟨Status.success, Status.success, .shared shared⟩
    | loadImage => exact ⟨.error Status.success, .error Status.success, .shared shared⟩
    | configureImage | verify => exact ⟨.ok (), .ok (), .shared shared⟩
    | startImage => exact ⟨⟨.success, none⟩, ⟨.success, none⟩, .shared shared⟩
    | snapshot | trustRoot | rootDevice => exact ⟨none, none, .shared shared⟩
    | install | restore => exact ⟨(), (), .shared shared⟩
    | secureBootMode => exact ⟨SecureBootMode.unknown, SecureBootMode.unknown, .shared shared⟩
    | layoutOf => exact ⟨.error .endOfFile, .error .endOfFile, .shared shared⟩
  · intro reply answer same
    have equal : (⟨call, reply⟩ : Exchange platform) = ⟨call, answer⟩ := same.eq_of_shared (.inl shared)
    cases equal
    rfl

section OneFile

variable {container image : Buffer} {others : (call : Platform.Call) → Platform.Reply call} {call : Platform.Call}

/-- A platform with one file under every name, and one place for its pages. Other answers are always the same. -/
def oneFile (others : (call : Platform.Call) → Platform.Reply call) (file : Buffer) : Machine platform Unit where
  answer call _ :=
    match call with
    | .openFile _ => (.ok ⟨1, UInt64.ofNat file.size⟩, ())
    | .readFile _ _ => (⟨file, none⟩, ())
    | .allocatePages _ _ => (.ok ⟨0x1000, fun _ => 0⟩, ())
    | .freePages _ _ => (Status.success, ())
    | other => (others other, ())

private theorem oneFile_shared (shared : call.Shared) : (oneFile others image).answer call () = (others call, ()) := by
  cases call <;> first | rfl | exact absurd shared not_false

/-- Two platforms that differ only in their file answer alike where they are asked alike. -/
theorem oneFile_alike (small : container.size < wordLimit) (smaller : image.size < wordLimit)
    {left right : Platform.Call} (asked : AskedAlike (Alike container image) left right) :
    Alike container image ⟨left, ((oneFile others container).answer left ()).1⟩
      ⟨right, ((oneFile others image).answer right ()).1⟩ := by
  have files : SameFile container image ⟨1, UInt64.ofNat container.size⟩ ⟨1, UInt64.ofNat image.size⟩ :=
    ⟨rfl, UInt64.toNat_ofNat_of_lt' small, UInt64.toNat_ofNat_of_lt' smaller⟩
  have pool (kind : MemoryKind) (size : Nat) (reply : Except Status Grant) :
      Alike container image ⟨.allocatePool kind size, reply⟩ ⟨.allocatePool kind size, reply⟩ := by
    cases reply with
    | error status => exact .ungranted
    | ok grant => exact .granted rfl
  obtain ⟨reply, answer, alike⟩ := asked
  cases alike with
  | shared shared =>
      rw [(oneFile_shared shared).trans (oneFile_shared shared).symm]
      exact .shared shared
  | unopened | opened => exact .opened files
  | unread same | read same => exact .read same
  | closed same => exact .closed same
  | unreserved | reserved => exact .reserved rfl
  | freed => exact .freed
  | ungranted | granted => exact pool _ _ _

theorem oneFile_told (small : container.size < wordLimit) (smaller : image.size < wordLimit)
    {lefts rights : History platform} (givesLeft : (oneFile others container).Gives () lefts)
    (givesRight : (oneFile others image).Gives () rights) : ToldAlike (Alike container image) lefts rights := by
  induction lefts generalizing rights with
  | nil => exact trivial
  | cons left lefts ih =>
      cases rights with
      | nil => exact trivial
      | cons right rights =>
          obtain ⟨left, reply⟩ := left
          obtain ⟨right, answer⟩ := right
          obtain ⟨same, laterLeft⟩ := givesLeft
          change reply = ((oneFile others container).answer left ()).1 at same
          subst same
          obtain ⟨same, laterRight⟩ := givesRight
          change answer = ((oneFile others image).answer right ()).1 at same
          subst same
          exact ⟨oneFile_alike small smaller, ih laterLeft laterRight⟩

end OneFile

end EfiHandoff
