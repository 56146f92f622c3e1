import EfiHandoff.Image.Loaded
import EfiHandoff.Proofs.Program.Attempt

/-!
# Why an image cannot be loaded

Whatever is wrong with an image, parsing and loading it blame the image or the memory, and never how it was
found.
-/

set_option autoImplicit false

namespace EfiHandoff

def BootError.BlamesImage (error : BootError) : Prop :=
  error.errorClass = .badFileType ∨ error.errorClass = .outOfMemory ∨ error.errorClass = .outOfRange

namespace Image

theorem HeaderFault.blamesImage (fault : HeaderFault) : (Fault.error fault).BlamesImage := by
  cases fault <;> exact .inl rfl

theorem WindowFault.blamesImage (fault : WindowFault) : (Fault.error fault).BlamesImage := by
  cases fault <;> first | exact .inl rfl | exact .inr (.inl rfl)

theorem SectionFault.blamesImage (fault : SectionFault) : (Fault.error fault).BlamesImage := by
  cases fault <;> first | exact .inl rfl | exact .inr (.inr rfl)

theorem RelocationFault.blamesImage (fault : RelocationFault) : (Fault.error fault).BlamesImage := by
  cases fault <;> exact .inl rfl

variable {file : Buffer} {layout : Layout}

private theorem fill_failsOnly (image : Buffer) :
    Attempt.FailsOnly (I := platform) BootError.BlamesImage (fill file layout image) := by
  refine (Attempt.failsOnly_ofChecked _ fun fault _ => fault.blamesImage).bind fun headed => ?_
  refine (Attempt.failsOnly_report _).bind fun _ => ?_
  exact Attempt.failsOnly_ofChecked _ fun fault _ => fault.blamesImage

theorem settle_failsOnly {allowed : BootError → Prop} (memory : allowed .outOfMemory)
    (relocation : ∀ fault : RelocationFault, allowed (Fault.error fault)) (entry : allowed .entryOutOfRange)
    (base : UInt64) (image : Buffer) :
    Attempt.FailsOnly (I := platform) allowed (settle layout base image) := by
  unfold settle
  split
  · refine (Attempt.failsOnly_report _).bind fun _ => ?_
    refine (Attempt.failsOnly_checked _ fun fault _ => relocation fault).bind fun _ => ?_
    split
    · exact Attempt.failsOnly_pure _
    · exact Attempt.failsOnly_fail entry
  · exact Attempt.failsOnly_throw memory

private theorem Window.allocate_failsOnly :
    Attempt.FailsOnly (I := platform) BootError.BlamesImage (Window.allocate layout) := by
  refine (Attempt.failsOnly_ofChecked _ fun fault _ => fault.blamesImage).bind fun size => ?_
  refine Attempt.FailsOnly.bind ?_ fun buffer => ?_
  · refine Attempt.failsOnly_ask fun reply => ?_
    cases reply with
    | error status => exact Attempt.failsOnly_ofChecked _ fun _ _ => .inr (.inl rfl)
    | ok grant => exact Attempt.failsOnly_pure _
  · refine Attempt.FailsOnly.onFailure ?_
    refine (Attempt.failsOnly_ofChecked _ fun fault _ => fault.blamesImage).bind fun window => ?_
    exact (Attempt.failsOnly_report _).bind fun _ => Attempt.failsOnly_pure _

theorem load_failsOnly :
    Attempt.FailsOnly (I := platform) BootError.BlamesImage (load file layout) := by
  refine Window.allocate_failsOnly.bind fun window => ?_
  refine Attempt.FailsOnly.onFailure ?_
  refine (fill_failsOnly _).bind fun filled => ?_
  refine (settle_failsOnly (.inr (.inl rfl)) RelocationFault.blamesImage (.inl rfl) _ _).bind fun (bytes, entry) => ?_
  exact (Attempt.failsOnly_report _).bind fun _ => Attempt.failsOnly_pure _

end Image

end EfiHandoff
