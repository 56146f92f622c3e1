import EfiHandoff.Proofs.Handoff.StartReporting
import EfiHandoff.Proofs.SystemTable.ClosedFiles
import EfiHandoff.Proofs.SystemTable.ExitText
import EfiHandoff.Proofs.SystemTable.PiecewiseReading
import EfiHandoff.Proofs.SystemTable.ShimRefusal

/-!
# The status of a failure

A failure is never passed on to the firmware as success: a status in an error was returned by a call that the loader
takes for a failure, and every other error has a status of its own.
-/

set_option autoImplicit false

namespace EfiHandoff

open SystemTable Testimony

section Errors

variable {error : BootError} {status : Status}

private theorem Status.toExcept_of_ne (failure : status ≠ .success) : status.toExcept = .error status :=
  if_neg (mt beq_iff_eq.mp failure)

private theorem BootError.status_of_carried (carried : error.carried? = some status) : error.status = status := by
  cases error <;> first | cases carried; rfl | cases carried

private theorem BootError.classStatus_ne_success (kind : ErrorClass) : classStatus kind ≠ .success := by
  cases kind <;> decide

/-- An error without a foreign status has that of its class, or one of three of its own. -/
theorem BootError.status_cases (plain : error.carried? = none) :
    error.status = classStatus error.errorClass ∨ error.status = .securityViolation ∨ error.status = .unsupported ∨
      error.status = .notFound := by
  cases error with
  | verificationFailed => exact .inr (.inl rfl)
  | contextUnsupported | unsupportedMachine => exact .inr (.inr (.inl rfl))
  | noTrustRoot => exact .inr (.inr (.inr rfl))
  | deviceFailure | loaderRefused | contextFailed | programFailed => cases plain
  | _ => exact .inl rfl

private theorem BootError.status_of_plain (plain : error.carried? = none) : error.status ≠ .success := by
  obtain same | same | same | same := status_cases plain
  · rw [same]
    exact classStatus_ne_success _
  · rw [same]
    decide
  · rw [same]
    decide
  · rw [same]
    decide

end Errors

namespace Shim

/-- A status in the error came from the shim, and is not success. -/
theorem Asking.carried {shim : UInt64} {image : Buffer} {history : History systemTable} {journal : Journal}
    {error : BootError} {status : Status} (asking : Asking shim image history journal (.error error))
    (carried : error.carried? = some status) : status ≠ .success := by
  cases asking with
  | unasked => cases carried
  | @failed found _ failure =>
      change BootError.carried? (if found = .unsupported then _ else if found = .invalidParameter then _ else _) = _
        at carried
      split at carried
      · cases carried
      split at carried
      · cases carried
      · exact Option.some.inj carried ▸ failure
  | stray refused =>
      rw [(layoutOf_findsStray _ _ refused).plain] at carried
      cases carried

end Shim

namespace Services

variable {services : Services} {volume : Option Volume} {history : History systemTable} {journal : Journal}
  {status : Status}

private theorem openFile_blames {path : List Char}
    (follows : (openFile volume path).Follows history (.error (.device status))) : status ≠ .success := by
  cases volume with
  | none => cases follows.2
  | some volume =>
      cases Volume.openPath_follows follows with
      | unmounted failure => exact failure
      | unopened _ failure => exact failure
      | opened _ _ measuring =>
          cases measuring with
          | unsought failure => exact failure
          | untold failure => exact failure
          | unrewound failure => exact failure

private theorem reading_blames {file : UInt64} {length : Nat} {done : Buffer} {delivery : Delivery}
    (reading : Volume.Reading file length done history delivery) (failed : delivery.failure = some (.device status)) :
    status ≠ .success := by
  induction reading with
  | full => cases failed
  | failed _ failure =>
      cases failed
      exact failure
  | ended => cases failed
  | more _ _ _ ih => exact ih failed

private theorem loadImage_blames {path : Bytes} {image : Buffer}
    (follows : (services.loadImage path image).Follows history (.error status)) : status ≠ .success := by
  obtain ⟨⟨found, handle⟩, later, rfl, rfl, same⟩ := follows
  change _ = found.toExcept.map _ at same
  by_cases success : found = .success
  · subst success
    cases same
  · rw [Status.toExcept_of_ne success] at same
    cases same
    exact success

private theorem layoutOf_blames {image : Buffer} {error : BootError}
    (traces : (services.layoutOf image).Traces history journal (.error error))
    (carried : error.carried? = some status) : status ≠ .success := by
  obtain ⟨-, ⟨⟩⟩ | ⟨shim, -, asking⟩ := layoutOf_traces traces
  · cases carried
  · exact asking.carried carried

/-- A status that an answer blames a failure on is not success, because a call was taken for a failure over it. -/
theorem answer_blames {exchange : Exchange platform}
    (traces : (services.answer volume exchange.call).Traces history journal exchange.reply)
    (blames : Blames exchange status) : status ≠ .success := by
  obtain ⟨call, reply⟩ := exchange
  cases call with
  | openFile path =>
      obtain rfl : reply = .error (.device status) := blames
      exact openFile_blames traces.follows
  | readFile file length => exact reading_blames (Volume.readRest_follows.mp traces.follows) blames
  | loadImage path image =>
      obtain rfl : reply = .error status := blames
      exact loadImage_blames traces.follows
  | layoutOf image =>
      obtain ⟨error, rfl, carried⟩ := blames
      exact layoutOf_blames traces carried
  | startImage image => exact blames.2
  | callEntry entry image => exact blames.2
  | _ => exact blames.elim

end Services

/-- Where a run over the system table fails and every status in the failure was blamed on an answer, none is success. -/
theorem Attempt.Bears.run_carried {σ α : Type} {attempt : Attempt platform α} {other : Testimony platform}
    (bears : attempt.Bears (sourced.and other)) {services : Services} {volume : Option Volume}
    {machine : Machine systemTable σ} {state : σ} {error : BootError}
    (failed : ((services.perform volume attempt.run).run machine state).result = .error error) :
    error.status ≠ .success ∧ ∀ status, error.carried? = some status → status ≠ .success := by
  obtain ⟨above, own, said, -, answered⟩ := bears.run_interpreted failed
  have carries (status : Status) (carried : error.carried? = some status) : status ≠ .success := by
    obtain ⟨exchange, member, blames⟩ := said.1 status carried
    obtain ⟨stretch, written, given, -⟩ := answered exchange member
    exact Services.answer_blames given blames
  refine ⟨?_, carries⟩
  cases found : error.carried? with
  | none => exact BootError.status_of_plain found
  | some status =>
      rw [BootError.status_of_carried found]
      exact carries status found

/-- No failure is passed on as success, whatever the system table answers. An error that carries a status is passed on
with that status, which is not success where a preparation or a start fails with it; any other has a status of its
own, and that is not success either. -/
theorem failure_status_ne_success {σ : Type} (services : Services) (volume : Option Volume)
    (machine : Machine systemTable σ) (state : σ) :
    (∀ limit settings arguments error,
      ((services.perform volume (prepare settings arguments limit).run).run machine state).result = .error error →
        error.status ≠ .success ∧ ∀ status, error.carried? = some status → status ≠ .success) ∧
    (∀ (pending : Pending) error,
      ((services.perform volume pending.start.run).run machine state).result = .error error →
        error.status ≠ .success ∧ ∀ status, error.carried? = some status → status ≠ .success) ∧
    (∀ (error : BootError) status, error.carried? = some status → error.status = status) ∧
    ∀ error : BootError, error.carried? = none → error.status ≠ .success :=
  ⟨fun limit settings arguments _ failed => (prepare_tells limit settings arguments).run_carried failed,
    fun pending _ failed => pending.start_tells.run_carried failed,
    fun _ _ => BootError.status_of_carried, fun _ => BootError.status_of_plain⟩

/-- A warning of the boot medium is a failure, and so is the exit of a program. -/
theorem failure_status_ne_success_warning :
    (rewindPreparation.run Simulation.ScriptedTable.machine rewindStart).result = .error (.deviceFailure ⟨4⟩) ∧
      (BootError.deviceFailure ⟨4⟩).status ≠ .success ∧
    ((ledgerServices.perform ledgerVolume cutPending.start.run).run Simulation.ScriptedTable.machine exitStart).result =
        .error (.programFailed .loadError (String.ofList ['A', 'B'])) ∧
      (BootError.programFailed .loadError (String.ofList ['A', 'B'])).status ≠ .success := by
  have measured : (rewindPreparation.run Simulation.ScriptedTable.machine rewindStart).result =
      .error (.deviceFailure ⟨4⟩) := by decide +kernel
  have exited : ((ledgerServices.perform ledgerVolume cutPending.start.run).run
      Simulation.ScriptedTable.machine exitStart).result =
      .error (.programFailed .loadError (String.ofList ['A', 'B'])) := by decide +kernel
  obtain ⟨prepared, -⟩ := failure_status_ne_success ledgerServices (some rewindVolume)
    Simulation.ScriptedTable.machine rewindStart
  obtain ⟨-, started, -⟩ := failure_status_ne_success ledgerServices ledgerVolume
    Simulation.ScriptedTable.machine exitStart
  exact ⟨measured, (prepared _ _ _ _ measured).1, exited, (started _ _ exited).1⟩

end EfiHandoff
