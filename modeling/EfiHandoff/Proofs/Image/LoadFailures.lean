import EfiHandoff.Proofs.Image.Failures
import EfiHandoff.Proofs.Image.HeaderFormat
import EfiHandoff.Proofs.Image.Refusals

/-!
# What is left to find wrong after the headers

Loading checks the numbers of a layout again before it uses them. For a layout that was read from the file some of these
checks never fail: there is a size to request, there is an alignment, and every section has its header in the file. What
remains is the memory, and what the headers do not tell.
-/

set_option autoImplicit false

namespace EfiHandoff

open Platform

/-- Reading the headers cannot tell that a load will fail like this: there is no memory for it, or the sections, the
relocations or the entry point do not fit. -/
inductive BootError.FoundLater : BootError → Prop where
  | memory : FoundLater .outOfMemory
  | part : FoundLater .sectionOutOfRange
  | relocation : FoundLater .relocationOutOfRange
  | block (size : UInt32) : FoundLater (.relocationBlockTooSmall size)
  | page : FoundLater .relocationPageOutOfRange
  | kind (kind : UInt8) : FoundLater (.unknownFixup kind)
  | entry : FoundLater .entryOutOfRange

namespace Image

section Read

variable {file : Buffer} {layout : Layout}

private theorem isPowerOfTwo_of_readLayout (read : readLayout file = .ok layout) :
    isPowerOfTwo layout.alignment = true := by
  obtain ⟨accepted, rfl⟩ := readLayout_eq_ok_iff.mp read
  exact accepted.alignment

private theorem headers_fit_of_readLayout (read : readLayout file = .ok layout) :
    layout.headersSize.toNat ≤ layout.imageSize.toNat := by
  obtain ⟨accepted, rfl⟩ := readLayout_eq_ok_iff.mp read
  have described := describes_declared file
  rw [described.headersSize, described.imageSize]
  exact accepted.headersFit

theorem imageSize_alignment_lt (read : readLayout file = .ok layout) :
    layout.imageSize.toNat + layout.alignment.toNat < wordLimit := by
  obtain ⟨-, rfl⟩ := readLayout_eq_ok_iff.mp read
  have small : (declared file).imageSize.toNat < 0x100000000 := by
    rw [(describes_declared file).imageSize]
    exact Buffer.word_lt file _ 4
  have aligned : (declared file).alignment.toNat < 0x100000000 := UInt32.toNat_lt _
  unfold wordLimit
  omega

private theorem Window.bufferSize_of_readLayout (read : readLayout file = .ok layout) :
    bufferSize layout = .ok (layout.imageSize.toNat + layout.alignment.toNat) := by
  have nonempty : layout.imageSize ≠ 0 := by
    obtain ⟨accepted, rfl⟩ := readLayout_eq_ok_iff.mp read
    intro empty
    refine accepted.nonempty ?_
    rw [← (describes_declared file).imageSize, empty]
    rfl
  unfold bufferSize
  rw [if_neg nonempty, isPowerOfTwo_of_readLayout read, checkedAdd_of_lt (imageSize_alignment_lt read)]
  rfl

theorem sectionAt_of_readLayout {index : Nat} (read : readLayout file = .ok layout)
    (counted : index < layout.sectionCount.toNat) :
    sectionAt file layout index = .ok (listedSection file layout index) := by
  obtain ⟨accepted, rfl⟩ := readLayout_eq_ok_iff.mp read
  obtain ⟨-, optional, short, few⟩ := places_reach file
  have table := accepted.sectionTable
  have start : (declared file).sectionTable.toNat = optionalAt file + optionalSize file :=
    (describes_declared file).sectionTable
  have counted : index < (sectionCount file).toNat := counted
  refine sectionAt_of_inside ?_ ?_
  · unfold Layout.headerPlace sectionHeaderSize wordLimit
    omega
  · unfold Layout.headerPlace
    unfold sectionHeaderSize at table ⊢
    omega

end Read

section Steps

variable {file image : Buffer} {layout : Layout} {history : History platform} {error : BootError}

private theorem Window.choose_alignable {buffer : PoolBuffer} {window : Window}
    (chosen : choose layout buffer = .ok window) :
    buffer.address.toNat + (layout.alignment.toNat - 1) < wordLimit := by
  unfold choose alignUp checkedAdd at chosen
  by_contra top
  rw [if_neg top] at chosen
  cases chosen

theorem Window.choose_fault {buffer : PoolBuffer} {fault : WindowFault}
    (refused : choose layout buffer = .error fault) :
    fault = .noAlignedAddress ∧ wordLimit ≤ buffer.address.toNat + (layout.alignment.toNat - 1) := by
  unfold choose alignUp checkedAdd at refused
  by_cases fits : buffer.address.toNat + (layout.alignment.toNat - 1) < wordLimit
  · rw [if_pos fits] at refused
    cases refused
  · rw [if_neg fits] at refused
    exact ⟨(Except.error.inj refused).symm, Nat.le_of_not_lt fits⟩

private theorem loadSection_fault {part : Section} {fault : SectionFault}
    (refused : loadSection file part image = .error fault) : Fault.error fault = .sectionOutOfRange := by
  unfold loadSection at refused
  dsimp only at refused
  split at refused
  · obtain rfl := Except.error.inj refused
    rfl
  split at refused
  · cases refused
  split at refused
  · obtain rfl := Except.error.inj refused
    rfl
  · cases refused

private theorem loadSectionsFrom_fault {index count : Nat} {fault : SectionFault}
    (table : ∀ other < index + count, ∃ part, sectionAt file layout other = .ok part)
    (stopped : (loadSectionsFrom file layout index count image).fault = some fault) :
    Fault.error fault = .sectionOutOfRange := by
  induction count generalizing index image with
  | zero => cases stopped
  | succ count ih =>
      obtain ⟨part, read⟩ := table index (by omega)
      unfold loadSectionsFrom at stopped
      rw [read] at stopped
      dsimp only at stopped
      cases put : loadSection file part image with
      | error other =>
          rw [put] at stopped
          obtain rfl := Option.some.inj stopped
          exact loadSection_fault put
      | ok filled =>
          rw [put] at stopped
          exact ih (fun other below => table other (by omega)) stopped

/-- Filling an image that has room for the headers fails because the file ends inside them, or later for a section. -/
theorem fill_fails (room : layout.headersSize.toNat ≤ image.size)
    (table : ∀ index < layout.sectionCount.toNat, ∃ part, sectionAt file layout index = .ok part)
    (follows : Attempt.Follows (I := platform) (fill file layout image) history (.error error)) :
    (file.size < layout.headersSize.toNat ∧ error = .invalidHeader "headers exceed image") ∨
      (layout.headersSize.toNat ≤ file.size ∧ error = .sectionOutOfRange) := by
  obtain ⟨_, copying, ⟨⟩⟩ | ⟨headed, first, later, copying, loading, rfl⟩ := Attempt.follows_bind.mp follows
  · obtain ⟨-, refused⟩ := Attempt.follows_ofChecked.mp copying
    obtain ⟨fault, copied, rfl⟩ := Fault.simplify_eq_error_iff.mp refused.symm
    obtain ⟨outside, rfl⟩ := copyHeaders_error_iff.mp copied
    exact .inl ⟨by omega, rfl⟩
  · obtain ⟨-, copied⟩ := Attempt.follows_ofChecked.mp copying
    obtain ⟨inFile, -⟩ := copyHeaders_ok (Fault.simplify_eq_ok_iff.mp copied.symm)
    rw [Attempt.follows_report_bind] at loading
    obtain ⟨-, refused⟩ := Attempt.follows_ofChecked.mp loading
    obtain ⟨fault, stopped, rfl⟩ := Fault.simplify_eq_error_iff.mp refused.symm
    refine .inr ⟨inFile, ?_⟩
    unfold Filled.result at stopped
    split at stopped
    · cases stopped
    · next found =>
        obtain rfl := Except.error.inj stopped
        exact loadSectionsFrom_fault (fun other below => table other (by omega)) found

private theorem settle_foundLater (base : UInt64) :
    Attempt.FailsOnly (I := platform) BootError.FoundLater (settle layout base image) := by
  refine settle_failsOnly .memory (fun fault => ?_) .entry base image
  cases fault with
  | tableOutside | headerOutside | blockOutside | entryOutside | targetOutside => exact .relocation
  | blockTooSmall => exact .block _
  | pageOutside => exact .page
  | unknownKind => exact .kind _

end Steps

inductive LoadFailure (file : Buffer) (layout : Layout) (size : Nat) : History platform → BootError → Prop where
  | ungranted {status : Status} : LoadFailure file layout size [⟨.allocatePool .data size, .error status⟩] .outOfMemory
  | unaligned {grant : Grant} {freed : Status}
      (top : wordLimit ≤ grant.address.toNat + (layout.alignment.toNat - 1)) :
      LoadFailure file layout size [⟨.allocatePool .data size, .ok grant⟩, ⟨.freePool grant.address, freed⟩]
        .outOfMemory
  | headers {grant : Grant} {freed : Status}
      (alignable : grant.address.toNat + (layout.alignment.toNat - 1) < wordLimit)
      (short : file.size < layout.headersSize.toNat) :
      LoadFailure file layout size [⟨.allocatePool .data size, .ok grant⟩, ⟨.freePool grant.address, freed⟩]
        (.invalidHeader "headers exceed image")
  | later {grant : Grant} {freed : Status} {error : BootError}
      (inFile : layout.headersSize.toNat ≤ file.size) (found : error.FoundLater) :
      LoadFailure file layout size [⟨.allocatePool .data size, .ok grant⟩, ⟨.freePool grant.address, freed⟩] error

section Load

variable {file : Buffer} {layout : Layout} {history : History platform} {error : BootError} {size : Nat}

private theorem load_fails (read : readLayout file = .ok layout)
    (follows : (load file layout).Follows history (.error error)) :
    LoadFailure file layout (layout.imageSize.toNat + layout.alignment.toNat) history error := by
  have requested := Window.bufferSize_of_readLayout read
  obtain ⟨_, failed, ⟨⟩⟩ | ⟨window, first, later, allocated, filling, rfl⟩ := Attempt.follows_bind.mp follows
  · cases Window.allocate_follows failed with
    | unrequested refused =>
        rw [requested] at refused
        cases refused
    | ungranted sized =>
        obtain rfl := Except.ok.inj (requested.symm.trans sized)
        exact .ungranted
    | unaligned sized refused =>
        obtain rfl := Except.ok.inj (requested.symm.trans sized)
        obtain ⟨rfl, top⟩ := Window.choose_fault refused
        exact .unaligned top
  obtain _ | _ | _ | ⟨sized, chosen⟩ := Window.allocate_follows allocated
  obtain rfl := Except.ok.inj (requested.symm.trans sized)
  obtain ⟨_, -, ⟨⟩⟩ | ⟨_, first, second, unfilled, released, ⟨⟩, rfl⟩ := Attempt.follows_onFailure.mp filling
  obtain ⟨rfl, -⟩ := filling_follows unfilled
  obtain ⟨freed, rfl⟩ := PoolBuffer.release_follows released
  rw [(Window.choose_ok sized chosen).1]
  obtain ⟨length, blank⟩ := Window.bytes_blank sized chosen
  have room : layout.headersSize.toNat ≤ window.bytes.size := by
    rw [length]
    exact headers_fit_of_readLayout read
  have table (index : Nat) (counted : index < layout.sectionCount.toNat) :
      ∃ part, sectionAt file layout index = .ok part := ⟨_, sectionAt_of_readLayout read counted⟩
  obtain ⟨_, failed, ⟨⟩⟩ | ⟨image, first, last, filled, settling, -⟩ := Attempt.follows_bind.mp unfilled
  · obtain ⟨short, rfl⟩ | ⟨inFile, rfl⟩ := fill_fails room table failed
    · exact .headers (Window.choose_alignable chosen) short
    · exact .later inFile .part
  · obtain ⟨-, -, -, inFile, -⟩ := fill_ok length blank filled
    obtain ⟨_, failed, ⟨⟩⟩ | ⟨⟨bytes, entry⟩, first, last, -, ended, -⟩ := Attempt.follows_bind.mp settling
    · exact .later inFile (settle_foundLater _ _ _ failed)
    · rw [Attempt.follows_report_bind] at ended
      obtain ⟨-, ⟨⟩⟩ := Attempt.follows_pure.mp ended

theorem LoadFailure.reason (failure : LoadFailure file layout size history error) :
    error.FoundLater ∨ error = .invalidHeader "headers exceed image" := by
  cases failure with
  | ungranted => exact .inl .memory
  | unaligned => exact .inl .memory
  | headers => exact .inr rfl
  | later _ found => exact .inl found

theorem LoadFailure.headers_iff (failure : LoadFailure file layout size history error) :
    error = .invalidHeader "headers exceed image" ↔ file.size < layout.headersSize.toNat ∧
      ∃ size grant later, history = ⟨.allocatePool .data size, .ok grant⟩ :: later ∧
        grant.address.toNat + (layout.alignment.toNat - 1) < wordLimit := by
  constructor
  · intro same
    subst same
    cases failure with
    | headers alignable short => exact ⟨short, _, _, _, rfl, alignable⟩
    | later _ found => cases found
  · intro assumed
    obtain ⟨short, size, grant, later, cut, alignable⟩ := assumed
    cases failure with
    | ungranted => cases cut
    | unaligned top =>
        cases cut
        exact absurd alignable (Nat.not_lt.mpr top)
    | headers => rfl
    | later inFile => exact absurd short (Nat.not_lt.mpr inFile)

/-- For a layout that was read from the file, a load finds nothing wrong that the headers tell, except that the file
ends inside the bytes that are declared to be headers. -/
theorem readLayout_discharges_load (file : Buffer) (layout : Layout) (read : readLayout file = .ok layout) :
    (layout.imageSize.toNat + layout.alignment.toNat < wordLimit ∧
      Window.bufferSize layout = .ok (layout.imageSize.toNat + layout.alignment.toNat)) ∧
    (∀ index < layout.sectionCount.toNat, ∃ part, sectionAt file layout index = .ok part) ∧
    ∀ history verdict, (load file layout).Follows history verdict →
      (∀ error, verdict = .error error → error.FoundLater ∨ error = .invalidHeader "headers exceed image") ∧
      (verdict = .error (.invalidHeader "headers exceed image") ↔ file.size < layout.headersSize.toNat ∧
        ∃ size grant later, history = ⟨.allocatePool .data size, .ok grant⟩ :: later ∧
          grant.address.toNat + (layout.alignment.toNat - 1) < wordLimit) ∧
      verdict ≠ .error (.invalidHeader "image size is zero") ∧
      verdict ≠ .error (.invalidHeader "image too large") ∧
      (∀ alignment, verdict ≠ .error (.invalidAlignment alignment)) ∧
      verdict ≠ .error (.invalidHeader "section table outside file") := by
  refine ⟨⟨imageSize_alignment_lt read, Window.bufferSize_of_readLayout read⟩,
    fun index counted => ⟨_, sectionAt_of_readLayout read counted⟩, fun history verdict follows => ?_⟩
  have reasons (error : BootError) (failed : verdict = .error error) :
      error.FoundLater ∨ error = .invalidHeader "headers exceed image" :=
    (load_fails read (failed ▸ follows)).reason
  have excluded {error : BootError} (other : error ≠ .invalidHeader "headers exceed image")
      (told : ¬ error.FoundLater) : verdict ≠ .error error := by
    intro failed
    obtain found | same := reasons error failed
    · exact told found
    · exact other same
  refine ⟨reasons, ?_, excluded (by decide) nofun, excluded (by decide) nofun,
    fun alignment => excluded nofun nofun, excluded (by decide) nofun⟩
  cases verdict with
  | ok loaded =>
      obtain ⟨size, grant, -, laidOut⟩ := load_laidOut follows
      refine iff_of_false nofun fun assumed => ?_
      exact absurd assumed.1 (Nat.not_lt.mpr laidOut.headers.1)
  | error error =>
      rw [Except.error.injEq]
      exact (load_fails read follows).headers_iff

end Load

section Short

open Simulation

/-- Headers and one empty section, in a file that ends before the 300 bytes that it says are headers. -/
def shortFile : Buffer :=
  let zeros (count : Nat) : Bytes := List.replicate count 0
  ([0x4d, 0x5a] ++ zeros 58 ++ [64, 0, 0, 0, 0x50, 0x45, 0, 0, 0x64, 0x86, 1, 0] ++ zeros 12 ++
    [112, 0, 0, 0, 0x0b, 2] ++ zeros 30 ++ [16, 0, 0, 0] ++ zeros 20 ++ [0, 2, 0, 0, 44, 1, 0, 0] ++ zeros 88).toArray

def shortLayout : Layout where
  preferredBase := 0
  imageSize := 512
  entry := 0
  headersSize := 300
  sectionCount := 1
  sectionTable := 200
  relocations := .absent
  directoryCount := 0
  alignment := 16

def shortPlatform : InMemory := { medium := { files := [], root := none } }

end Short

theorem readLayout_discharges_load_short :
    readLayout shortFile = .ok shortLayout ∧ (∃ part, sectionAt shortFile shortLayout 0 = .ok part) ∧
      ((load shortFile shortLayout).run.run Simulation.InMemory.machine shortPlatform).result =
        .error (.invalidHeader "headers exceed image") := by
  have read : readLayout shortFile = .ok shortLayout := by decide +kernel
  obtain ⟨-, listed, loads⟩ := readLayout_discharges_load shortFile shortLayout read
  obtain ⟨-, exceeds, -⟩ := loads _ _ (Program.follows_history Simulation.InMemory.machine _ shortPlatform)
  have short : shortFile.size < shortLayout.headersSize.toNat := by decide +kernel
  exact ⟨read, listed 0 (by decide), exceeds.mpr ⟨short, 528, ⟨0x100000, fun _ => 0⟩, _, rfl, by decide⟩⟩

end Image

end EfiHandoff
