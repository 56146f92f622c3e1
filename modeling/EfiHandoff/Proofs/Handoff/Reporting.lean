import EfiHandoff.Handoff.Pending
import EfiHandoff.Proofs.Program.Testimony

/-!
# Failures are reported and blamed on what was answered

Whatever the platform answers, a preparation that fails has written an error by then, and where its error carries a
status an answer blamed the failure on that very status.
-/

set_option autoImplicit false

namespace EfiHandoff

open Platform

/-- An entry that shows as soon as warnings do. -/
def Entry.IsGrave (entry : Entry) : Prop := entry.level = .error ∨ entry.level = .warn

instance (entry : Entry) : Decidable entry.IsGrave := inferInstanceAs (Decidable (_ ∨ _))

def BootError.carried? : BootError → Option Status
  | .deviceFailure status | .loaderRefused status | .contextFailed status | .programFailed status _ => some status
  | _ => none

/-- The answer to a question blames a failure on a status. How a program exits is blamed on its status unless that is
success. -/
def Blames : Exchange platform → Status → Prop
  | ⟨.openFile _, reply⟩, status => reply = .error (FileError.device status)
  | ⟨.readFile _ _, reply⟩, status => Delivery.failure reply = some (.device status)
  | ⟨.loadImage _ _, reply⟩, status => reply = .error status
  | ⟨.layoutOf _, reply⟩, status => ∃ error : BootError, reply = .error error ∧ error.carried? = some status
  | ⟨.startImage _, ending⟩, status => ImageExit.status ending = status ∧ status ≠ .success
  | ⟨.callEntry _ _, ending⟩, status => ending = status ∧ status ≠ .success
  | _, _ => False

namespace Testimony

def sourced : Testimony platform where
  holds history _ error := ∀ status, error.carried? = some status → ∃ exchange ∈ history, Blames exchange status
  grows asked _ sourced status carried :=
    (sourced status carried).imp fun _ blamed => ⟨asked blamed.1, blamed.2⟩

def spoken : Testimony platform where
  holds _ journal _ := ∃ entry ∈ journal, entry.IsGrave
  grows _ written := fun ⟨entry, member, grave⟩ => ⟨entry, written member, grave⟩

end Testimony

open Testimony

section Rules

variable {α β φ : Type} {history : History platform} {journal : Journal} {error : BootError}

theorem sourced_of_plain (plain : error.carried? = none) : sourced.holds history journal error := by
  intro status carried
  cases plain.symm.trans carried

/-- A fault whose report is grave and whose error carries no status. -/
def Fault.Loud [Fault φ] (fault : φ) : Prop :=
  (∃ entry ∈ Fault.journal fault, entry.IsGrave) ∧ (Fault.error fault).carried? = none

theorem Fault.Loud.told [Fault φ] {fault : φ} (loud : Fault.Loud fault) (within : Fault.journal fault ⊆ journal) :
    (sourced.and spoken).holds history journal (Fault.error fault) :=
  ⟨sourced_of_plain loud.2, spoken.grows (List.Subset.refl history) within loud.1⟩

/-- An error that carries no status, reported as it arises. -/
theorem tells_fail {origin : Origin} {message : String} (plain : error.carried? = none) :
    Attempt.Bears (sourced.and spoken) (Attempt.fail error (origin.error message) : Try α) :=
  Attempt.bears_fail ⟨sourced_of_plain plain, _, List.mem_singleton_self _, .inl rfl⟩

/-- An error that carries the status of the last answer, reported as it arises. -/
theorem tells_blamed {exchange : Exchange platform} {origin : Origin} {message : String}
    (blamed : ∀ status, error.carried? = some status → Blames exchange status) :
    Attempt.Bears ((sourced.and spoken).after [exchange] [])
      (Attempt.fail error (origin.error message) : Try α) :=
  Attempt.bears_fail ⟨fun status carried => ⟨exchange, List.mem_cons_self, blamed status carried⟩, _,
    List.mem_singleton_self _, .inl rfl⟩

theorem tells_ofChecked [Fault φ] {checked : Except φ α} (loud : ∀ fault : φ, Fault.Loud fault) :
    Attempt.Bears (I := platform) (sourced.and spoken) (Attempt.ofChecked checked) :=
  Attempt.bears_ofChecked fun fault _ => (loud fault).told (List.Subset.refl _)

/-- The fault of a checked value whose report was written before. -/
theorem told_reported [Fault φ] {checked : Except φ α} {written : Journal}
    (loud : ∀ fault, checked = .error fault → Fault.Loud fault ∧ Fault.journal fault ⊆ written) :
    ∀ error, Fault.simplify checked = .error error → ((sourced.and spoken).after [] written).holds [] [] error := by
  intro error failed
  obtain ⟨fault, stopped, rfl⟩ := Fault.simplify_eq_error_iff.mp failed
  obtain ⟨isLoud, within⟩ := loud fault stopped
  exact isLoud.told (List.subset_append_of_subset_left [] within)

theorem tells_reported [Fault φ] {checked : Except φ β} {written : Journal} {next : β → Try α}
    (loud : ∀ fault, checked = .error fault → Fault.Loud fault ∧ Fault.journal fault ⊆ written)
    (rest : ∀ value, Attempt.Bears (sourced.and spoken) (next value)) :
    Attempt.Bears (I := platform) (sourced.and spoken)
      (do Attempt.report written; let value ← ExceptT.mk (pure (Fault.simplify checked)); next value) :=
  Attempt.bears_report_bind
    (.bind (Attempt.bears_checked (told_reported loud)) fun value => (rest value).after [] written)

end Rules

section Faults

theorem loud_of_single {φ : Type} [Fault φ] {fault : φ} {origin : Origin} {message : String}
    (journal : Fault.journal fault = [origin.error message]) (plain : (Fault.error fault).carried? = none) :
    Fault.Loud fault := by
  refine ⟨⟨origin.error message, ?_, .inl rfl⟩, plain⟩
  rw [journal]
  exact List.mem_singleton_self _

theorem Image.HeaderFault.loud (fault : Image.HeaderFault) : Fault.Loud fault :=
  loud_of_single rfl (by cases fault <;> rfl)

theorem Image.ContainerFault.loud (fault : Image.ContainerFault) : Fault.Loud fault := by
  cases fault <;> exact loud_of_single rfl rfl

theorem MemoryFault.loud (fault : MemoryFault) : Fault.Loud fault := by
  cases fault <;> exact loud_of_single rfl rfl

theorem DevicePath.WalkFault.loud (fault : DevicePath.WalkFault) : Fault.Loud fault := by
  cases fault <;> exact loud_of_single rfl rfl

theorem DevicePath.FilePathFault.loud (fault : DevicePath.FilePathFault) : Fault.Loud fault := by
  cases fault with
  | device fault => exact fault.loud
  | _ => exact loud_of_single rfl rfl

theorem LoadOptions.Refused.loud (fault : LoadOptions.Refused) : Fault.Loud fault := loud_of_single rfl rfl

end Faults

section Preparing

variable {limit : MemoryLimit} {settings : Settings} {name : List Char}

theorem PoolBuffer.allocate_tells (kind : MemoryKind) (size : Nat) :
    Attempt.Bears (sourced.and spoken) (PoolBuffer.allocate kind size) := by
  refine Attempt.bears_ask fun (reply : Except Status Grant) => .after ?_ _ _
  cases reply with
  | error status => exact tells_ofChecked fun fault => fault.loud
  | ok grant => exact Attempt.bears_pure

private theorem PageRange.reserve_tells (kind : MemoryKind) (size : Nat) :
    Attempt.Bears (sourced.and spoken) (PageRange.reserve kind size) := by
  refine Attempt.bears_ask fun reply => ?_
  cases reply with
  | error status => exact (tells_ofChecked fun fault => fault.loud).after _ _
  | ok grant =>
      dsimp only
      split
      · exact (tells_ofChecked fun fault => fault.loud).ensuring.after _ _
      · exact Attempt.bears_pure

theorem FileError.blamed {exchange : Exchange platform} {error : FileError}
    (device : ∀ status, error = .device status → Blames exchange status) :
    ∀ status, error.bootError.carried? = some status → Blames exchange status := by
  intro status carried
  cases error with
  | notFound => cases carried
  | short => cases carried
  | device found =>
      obtain rfl := Option.some.inj carried
      exact device found rfl

private theorem readPages_tells (file : OpenFile) (size : Nat) :
    Attempt.Bears (sourced.and spoken) (readPages name file size) := by
  refine (PageRange.reserve_tells .code size).bind fun (pages, _) => ?_
  refine Attempt.Bears.onFailure (Attempt.bears_ask fun (reply : Delivery) => ?_)
  obtain ⟨bytes, failure⟩ := reply
  cases failure with
  | none => exact Attempt.bears_pure
  | some error => exact tells_blamed (FileError.blamed fun status same => same ▸ rfl)

private theorem requireRoot_tells : Attempt.Bears (sourced.and spoken) requireRoot := by
  refine Attempt.bears_ask fun (root : Option RootDevice) => ?_
  rcases root with _ | ⟨handle, _ | path⟩
  · exact (tells_fail rfl).after _ _
  · exact (tells_fail rfl).after _ _
  · exact Attempt.bears_pure

private theorem buildPath_tells (device : Bytes) :
    Attempt.Bears (sourced.and spoken) (buildPath limit device name) := by
  refine tells_reported (fun fault failed => ⟨fault.loud, ?_⟩) fun path => ?_
  · rw [failed]
    exact List.Subset.refl _
  · cases DevicePath.components path with
    | error fault => exact (Attempt.bears_lift _).bind fun _ => Attempt.bears_pure
    | ok names => exact (Attempt.bears_lift _).bind fun _ => Attempt.bears_pure

private theorem acceptSize_tells (size : UInt64) :
    Attempt.Bears (sourced.and spoken) (acceptSize settings name size) := by
  unfold acceptSize
  split
  · exact tells_fail rfl
  split
  · exact tells_fail rfl
  · exact Attempt.bears_pure

private theorem fetch_tells : Attempt.Bears (sourced.and spoken) (fetch limit settings name) := by
  refine Attempt.bears_ask fun (reply : Except FileError OpenFile) => ?_
  cases reply with
  | error error => exact tells_blamed (FileError.blamed fun status same => same ▸ rfl)
  | ok file =>
      refine (Attempt.Bears.ensuring ?_).after _ _
      refine requireRoot_tells.bind fun (device, devicePath) => ?_
      refine (buildPath_tells devicePath).bind fun path => ?_
      refine (acceptSize_tells file.size).bind fun size => ?_
      exact (readPages_tells file size).bind fun pages => Attempt.bears_pure

/-- A slice is looked for in universal binaries only, so what goes wrong with it is reported. -/
theorem selectSlice_reported {file : Buffer} {cpu : UInt32} {fault : Image.ContainerFault}
    (failed : Image.selectSlice file cpu = .error fault) :
    Fault.journal fault ⊆ Image.selectSliceJournal file (Image.selectSlice file cpu) := by
  have container : Image.isContainer file = true := by
    by_contra single
    rw [Image.selectSlice, if_neg single] at failed
    cases failed
  rw [failed, Image.selectSliceJournal, container]
  exact List.subset_cons_self _ _

private theorem selectImage_tells (file : Buffer) :
    Attempt.Bears (sourced.and spoken) (selectImage settings file) := by
  unfold selectImage
  split
  · refine tells_reported (fun fault failed => ⟨fault.loud, selectSlice_reported failed⟩) fun selected => ?_
    cases selected with
    | none => exact Attempt.bears_pure
    | some slice => exact Attempt.bears_pure
  · exact Attempt.bears_pure

private theorem requireVerified_tells (image : Buffer) :
    Attempt.Bears (sourced.and spoken) (requireVerified image) := by
  refine Attempt.bears_ask fun (root : Option LayoutSource) => ?_
  cases root with
  | none => exact (tells_fail rfl).after _ _
  | some source =>
      refine (Attempt.bears_ask fun (reply : Except Status Unit) => ?_).after _ _
      cases reply with
      | ok => exact Attempt.bears_lift _
      | error status => exact (tells_fail rfl).after _ _

private theorem requireLoaded_tells (path : Bytes) (image : Buffer) :
    Attempt.Bears (sourced.and spoken) (requireLoaded path image) := by
  refine Attempt.bears_ask fun (reply : Except Status Handle) => ?_
  cases reply with
  | ok handle => exact Attempt.bears_pure
  | error status =>
      refine tells_blamed fun carried same => ?_
      split at same
      · cases same
      · obtain rfl := Option.some.inj same
        rfl

private theorem chooseRoute_tells (path : Bytes) (image : Buffer) :
    Attempt.Bears (sourced.and spoken) (chooseRoute settings path image) := by
  unfold chooseRoute
  split
  · exact (Attempt.bears_lift _).bind fun _ => Attempt.bears_pure
  · refine Attempt.bears_ask fun (mode : SecureBootMode) => .after ?_ _ _
    split
    · exact (requireVerified_tells image).bind fun _ => Attempt.bears_pure
    · exact (requireLoaded_tells path image).bind fun _ => Attempt.bears_pure

private theorem configure_tells (pending : Pending) :
    Attempt.Bears (sourced.and spoken) (configure pending) := by
  unfold configure
  split
  · exact Attempt.bears_pure
  · refine Attempt.bears_ask fun (reply : Except Status Unit) => .after ?_ _ _
    cases reply with
    | ok => exact Attempt.bears_pure
    | error status => exact tells_fail rfl

theorem prepare_tells (limit : MemoryLimit) (settings : Settings) (arguments : List (List Char)) :
    Attempt.Bears (sourced.and spoken) (prepare settings arguments limit) := by
  cases arguments with
  | nil => exact tells_fail rfl
  | cons name rest =>
      refine (tells_ofChecked fun fault => fault.loud).bind fun options => ?_
      refine fetch_tells.bind fun (device, path, file) => ?_
      refine Attempt.Bears.bind (.onFailure ?_) fun (image, route) => ?_
      · refine (selectImage_tells file.bytes).bind fun image => ?_
        exact (chooseRoute_tells path image).bind fun route => Attempt.bears_pure
      · refine (configure_tells _).onFailure.bind fun _ => ?_
        exact (Attempt.bears_lift _).bind fun _ => Attempt.bears_pure

end Preparing

end EfiHandoff
