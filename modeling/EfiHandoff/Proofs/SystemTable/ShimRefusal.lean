import EfiHandoff.Proofs.Handoff.Reporting
import EfiHandoff.SystemTable.Services

/-!
# How the shim refuses

Asking the shim for the layout of an image ends in one of four ways, and only the failure that the shim itself reports
is written down. Nothing is written about an image that it is not asked about, nor about an answer that points out of
the image.
-/

set_option autoImplicit false

namespace EfiHandoff

open SystemTable

namespace Shim

open Image

variable {image : Buffer} {α β : Type}

/-- A fault in what the shim says, not one that it reports. -/
inductive ContextFault.Stray : ContextFault → Prop where
  | astray (what : String) : Stray (.astray what)
  | alignment (found : UInt32) : Stray (.alignment found)

/-- Nothing but such a fault is found. -/
def FindsStray (checked : Except ContextFault α) : Prop := ∀ fault, checked = .error fault → fault.Stray

private theorem findsStray_ok {value : α} : FindsStray (.ok value) := nofun

private theorem findsStray_astray {what : String} : FindsStray (.error (.astray what) : Except ContextFault α) := by
  rintro _ ⟨⟩
  exact .astray what

theorem FindsStray.bind {first : Except ContextFault α} {next : α → Except ContextFault β} (found : FindsStray first)
    (rest : ∀ value, FindsStray (next value)) : FindsStray (first >>= next) := by
  cases first with
  | error stopped =>
      rintro _ ⟨⟩
      exact found stopped rfl
  | ok value => exact rest value

private theorem pointed_findsStray (pointer : Option Int) (what : String) :
    FindsStray (pointed image pointer what) := by
  unfold pointed
  split
  · exact findsStray_ok
  · exact findsStray_astray

private theorem within_findsStray (offset length : Nat) (what : String) :
    FindsStray (within image offset length what) := by
  unfold within
  split
  · exact findsStray_ok
  · exact findsStray_astray

private theorem directory_findsStray (pointer : Option Int) : FindsStray (directory image pointer) := by
  unfold directory
  split
  · exact findsStray_ok
  · exact (within_findsStray _ _ _).bind fun _ => findsStray_ok

theorem layoutOf_findsStray (context : ShimContext) : FindsStray (layoutOf image context) := by
  refine (pointed_findsStray _ _).bind fun sectionTable => (directory_findsStray _).bind fun relocations => ?_
  refine (pointed_findsStray _ _).bind fun signature => (within_findsStray _ _ _).bind fun _ => ?_
  dsimp only
  split
  · rintro _ ⟨⟩
    exact .alignment _
  · exact findsStray_ok

inductive Asking (shim : UInt64) (image : Buffer) :
    History systemTable → Journal → Except BootError Layout → Prop where
  | unasked (large : sizeLimit ≤ image.size) : Asking shim image [] [] (.error .contextRejected)
  | failed {status : Status} {context : ShimContext} (failure : status ≠ .success) :
      Asking shim image [⟨.shimContext shim image, (status, context)⟩] (Fault.journal (ContextFault.failed status))
        (.error (Fault.error (ContextFault.failed status)))
  | stray {context : ShimContext} {fault : ContextFault} (refused : layoutOf image context = .error fault) :
      Asking shim image [⟨.shimContext shim image, (Status.success, context)⟩] [] (.error (Fault.error fault))
  | given {context : ShimContext} {layout : Layout} (read : layoutOf image context = .ok layout) :
      Asking shim image [⟨.shimContext shim image, (Status.success, context)⟩] [] (.ok layout)

theorem ContextFault.Stray.journal {fault : ContextFault} (stray : fault.Stray) : Fault.journal fault = [] := by
  cases stray <;> rfl

theorem ContextFault.Stray.plain {fault : ContextFault} (stray : fault.Stray) :
    (Fault.error fault).carried? = none := by
  cases stray <;> rfl

private theorem told_traces {told : Except ContextFault Layout} {history : History systemTable} {journal : Journal}
    {verdict : Except BootError Layout}
    (traces : Program.Traces
      (do Program.report (Fault.reported told); return Fault.simplify told : Act (Except BootError Layout))
      history journal verdict) :
    history = [] ∧ journal = Fault.reported told ∧ verdict = Fault.simplify told := by
  obtain ⟨⟨⟩, _, _, _, _, reported, ⟨rfl, rfl, rfl⟩, rfl, rfl⟩ := Program.traces_bind.mp traces
  obtain ⟨rfl, rfl⟩ := Program.traces_report.mp reported
  exact ⟨rfl, List.append_nil _, rfl⟩

theorem layout_traces {shim : UInt64} {history : History systemTable} {journal : Journal}
    {verdict : Except BootError Layout} (traces : (Shim.layout shim image).Traces history journal verdict) :
    Asking shim image history journal verdict := by
  unfold Shim.layout at traces
  by_cases small : image.size < sizeLimit
  · rw [if_pos small] at traces
    obtain ⟨⟨status, context⟩, later, rfl, continued⟩ := traces
    obtain ⟨rfl, rfl, rfl⟩ := told_traces continued
    by_cases success : status = .success
    · subst success
      change Asking shim image _ (Fault.reported (layoutOf image context)) (Fault.simplify (layoutOf image context))
      cases read : layoutOf image context with
      | error fault =>
          rw [show Fault.reported (.error fault) = [] from (layoutOf_findsStray context fault read).journal]
          exact .stray read
      | ok layout => exact .given read
    · have unsuccessful : status.isSuccess = false := beq_eq_false_iff_ne.mpr success
      rw [unsuccessful]
      exact .failed success
  · rw [if_neg small] at traces
    obtain ⟨rfl, rfl, rfl⟩ := told_traces traces
    exact .unasked (Nat.le_of_not_lt small)

end Shim

/-- A shim that is there is asked for the layout, and without one there is no answer. -/
theorem Services.layoutOf_traces {services : Services} {image : Buffer} {history : History systemTable}
    {journal : Journal} {verdict : Except BootError Image.Layout}
    (traces : (services.layoutOf image).Traces history journal verdict) :
    (services.shim = none ∧ verdict = .error .contextUnsupported) ∨
      ∃ shim, services.shim = some shim ∧ Shim.Asking shim image history journal verdict := by
  unfold layoutOf at traces
  cases installed : services.shim with
  | none =>
      rw [installed] at traces
      exact .inl ⟨rfl, traces.2.2⟩
  | some shim =>
      rw [installed] at traces
      exact .inr ⟨shim, rfl, Shim.layout_traces traces⟩

end EfiHandoff
