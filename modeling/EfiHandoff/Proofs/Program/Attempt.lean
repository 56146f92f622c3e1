import EfiHandoff.Proofs.Program.History

/-!
# Histories of attempts

How a program that may fail follows a history: a step that fails ends it, and whoever holds something gives it
back on the way out.
-/

set_option autoImplicit false

namespace EfiHandoff

namespace Attempt

variable {I : Interface} {α β φ : Type} {history : History I}

def Follows (attempt : Attempt I α) (history : History I) (verdict : Except BootError α) : Prop :=
  Program.Follows attempt.run history verdict

def Confined (allowed : I.Call → Prop) (attempt : Attempt I α) : Prop :=
  Program.Confined allowed attempt.run

theorem follows_pure {value : α} {verdict : Except BootError α} :
    Follows (pure value : Attempt I α) history verdict ↔ history = [] ∧ verdict = .ok value := Iff.rfl

theorem follows_throw {error : BootError} {verdict : Except BootError α} :
    Follows (throw error : Attempt I α) history verdict ↔ history = [] ∧ verdict = .error error :=
  Iff.rfl

theorem follows_mk {program : Program I (Except BootError α)} {verdict : Except BootError α} :
    Follows (ExceptT.mk program) history verdict ↔ program.Follows history verdict := Iff.rfl

theorem follows_checked {checked verdict : Except BootError α} :
    Follows (ExceptT.mk (pure checked) : Attempt I α) history verdict ↔
      history = [] ∧ verdict = checked := Iff.rfl

theorem run_bind (attempt : Attempt I α) (next : α → Attempt I β) :
    ExceptT.run (attempt >>= next) = attempt.run >>= ExceptT.bindCont next := rfl

/-- A sequence of attempts ends where the first fails, or goes on with the second. -/
theorem follows_bind {attempt : Attempt I α} {next : α → Attempt I β}
    {verdict : Except BootError β} :
    Follows (attempt >>= next) history verdict ↔
      (∃ error, attempt.Follows history (.error error) ∧ verdict = .error error) ∨
        ∃ value first second, attempt.Follows first (.ok value) ∧
          (next value).Follows second verdict ∧ history = first ++ second := by
  rw [Follows, run_bind, Program.follows_bind]
  constructor
  · intro follows
    obtain ⟨outcome, first, second, started, continued, rfl⟩ := follows
    cases outcome with
    | error error =>
        obtain ⟨rfl, rfl⟩ := continued
        exact .inl ⟨error, by rwa [List.append_nil], rfl⟩
    | ok value => exact .inr ⟨value, first, second, started, continued, rfl⟩
  · intro assumed
    rcases assumed with ⟨error, failed, rfl⟩ | ⟨value, first, second, started, continued, rfl⟩
    · exact ⟨.error error, history, [], failed, ⟨rfl, rfl⟩, by rw [List.append_nil]⟩
    · exact ⟨.ok value, first, second, started, continued, rfl⟩

theorem run_lift (program : Program I α) :
    ExceptT.run (liftM program : Attempt I α) = program >>= fun value => pure (Except.ok value) := rfl

theorem follows_lift {program : Program I α} {verdict : Except BootError α} :
    Follows (liftM program : Attempt I α) history verdict ↔
      ∃ value, program.Follows history value ∧ verdict = .ok value := by
  rw [Follows, run_lift, Program.follows_bind]
  constructor
  · intro assumed
    obtain ⟨value, first, second, started, ⟨rfl, rfl⟩, rfl⟩ := assumed
    exact ⟨value, by rwa [List.append_nil], rfl⟩
  · intro assumed
    obtain ⟨value, follows, rfl⟩ := assumed
    exact ⟨value, history, [], follows, ⟨rfl, rfl⟩, by rw [List.append_nil]⟩

theorem follows_ask {question : I.Call} {next : I.Reply question → Attempt I β}
    {verdict : Except BootError β} :
    Follows (liftM (Program.call question) >>= next) history verdict ↔
      ∃ reply later, history = ⟨question, reply⟩ :: later ∧ (next reply).Follows later verdict :=
  Iff.rfl

theorem follows_report {journal : Journal} {verdict : Except BootError Unit} :
    Follows (report journal : Attempt I Unit) history verdict ↔ history = [] ∧ verdict = .ok () := by
  constructor
  · intro follows
    obtain ⟨value, reported, rfl⟩ := follows_lift.mp follows
    exact ⟨Program.follows_report.mp reported, rfl⟩
  · intro assumed
    obtain ⟨rfl, rfl⟩ := assumed
    exact follows_lift.mpr ⟨(), Program.follows_report.mpr rfl, rfl⟩

/-- What comes after a report has the whole history to itself. -/
theorem follows_report_bind {journal : Journal} {next : Unit → Attempt I β}
    {verdict : Except BootError β} :
    Follows (report journal >>= next) history verdict ↔ (next ()).Follows history verdict := by
  rw [follows_bind]
  constructor
  · intro assumed
    rcases assumed with ⟨error, reported, rfl⟩ | ⟨⟨⟩, first, second, reported, continued, rfl⟩
    · cases (follows_report.mp reported).2
    · obtain ⟨rfl, -⟩ := follows_report.mp reported
      exact continued
  · intro continued
    exact .inr ⟨(), [], history, follows_report.mpr ⟨rfl, rfl⟩, continued, rfl⟩

theorem follows_fail {error : BootError} {entry : Entry} {verdict : Except BootError α} :
    Follows (fail error entry : Attempt I α) history verdict ↔
      history = [] ∧ verdict = .error error :=
  follows_report_bind.trans follows_throw

theorem follows_ofChecked [Fault φ] {checked : Except φ α} {verdict : Except BootError α} :
    Follows (ofChecked checked : Attempt I α) history verdict ↔
      history = [] ∧ verdict = Fault.simplify checked := by
  cases checked with
  | ok value => exact follows_pure
  | error fault => exact follows_report_bind.trans follows_throw

theorem follows_ensuring {release : Program I Unit} {attempt : Attempt I α}
    {verdict : Except BootError α} :
    Follows (ensuring release attempt) history verdict ↔
      ∃ first second, attempt.Follows first verdict ∧ release.Follows second () ∧
        history = first ++ second :=
  Program.follows_followedBy

theorem follows_onFailure {release : Program I Unit} {attempt : Attempt I α}
    {verdict : Except BootError α} :
    Follows (onFailure release attempt) history verdict ↔
      (∃ value, attempt.Follows history (.ok value) ∧ verdict = .ok value) ∨
        ∃ error first second, attempt.Follows first (.error error) ∧ release.Follows second () ∧
          verdict = .error error ∧ history = first ++ second := by
  rw [onFailure, follows_mk, Program.follows_bind]
  constructor
  · intro assumed
    obtain ⟨outcome, first, second, started, continued, rfl⟩ := assumed
    cases outcome with
    | ok value =>
        obtain ⟨rfl, rfl⟩ := continued
        exact .inl ⟨value, by rwa [List.append_nil], rfl⟩
    | error error =>
        obtain ⟨⟨⟩, released, rest, given, ⟨rfl, rfl⟩, rfl⟩ := Program.follows_bind.mp continued
        exact .inr ⟨error, first, released, started, given, rfl, by rw [List.append_nil]⟩
  · intro assumed
    rcases assumed with ⟨value, started, rfl⟩ | ⟨error, first, second, started, given, rfl, rfl⟩
    · exact ⟨.ok value, history, [], started, ⟨rfl, rfl⟩, by rw [List.append_nil]⟩
    · refine ⟨.error error, first, second ++ [], started, ?_, by rw [List.append_nil]⟩
      exact Program.follows_bind.mpr ⟨(), second, [], given, ⟨rfl, rfl⟩, rfl⟩

section Confined

variable {allowed : I.Call → Prop}

theorem confined_fail (error : BootError) (entry : Entry) :
    Confined allowed (fail error entry : Attempt I α) :=
  trivial

theorem Confined.bind {attempt : Attempt I α} {next : α → Attempt I β}
    (first : attempt.Confined allowed) (rest : ∀ value, (next value).Confined allowed) :
    Confined allowed (attempt >>= next) :=
  Program.Confined.bindExcept first rest

theorem confined_lift {program : Program I α} (confined : program.Confined allowed) :
    Confined allowed (liftM program : Attempt I α) := by
  change Program.Confined allowed (program >>= fun value => pure (Except.ok value))
  exact confined.bind fun _ => trivial

theorem confined_checked (checked : Except BootError α) :
    Confined allowed (ExceptT.mk (pure checked) : Attempt I α) :=
  trivial

theorem confined_report (journal : Journal) : Confined allowed (report journal : Attempt I Unit) :=
  confined_lift (Program.confined_report journal)

theorem confined_ofChecked [Fault φ] (checked : Except φ α) :
    Confined allowed (ofChecked checked : Attempt I α) := by
  cases checked with
  | ok value => exact trivial
  | error fault => exact (confined_report _).bind fun _ => trivial

theorem Confined.ensuring {release : Program I Unit} {attempt : Attempt I α}
    (first : attempt.Confined allowed) (given : release.Confined allowed) :
    Confined allowed (Attempt.ensuring release attempt) :=
  Program.Confined.followedBy first given

theorem Confined.onFailure {release : Program I Unit} {attempt : Attempt I α}
    (first : attempt.Confined allowed) (given : release.Confined allowed) :
    Confined allowed (Attempt.onFailure release attempt) := by
  refine Program.Confined.bind first ?_
  intro outcome
  cases outcome with
  | error error => exact given.bind fun _ => trivial
  | ok value => exact trivial

end Confined

def FailsOnly (allowed : BootError → Prop) (attempt : Attempt I α) : Prop :=
  ∀ history error, attempt.Follows history (.error error) → allowed error

section FailsOnly

variable {allowed : BootError → Prop}

theorem failsOnly_pure (value : α) : FailsOnly allowed (pure value : Attempt I α) := by
  intro history error failed
  cases (follows_pure.mp failed).2

theorem failsOnly_report (journal : Journal) : FailsOnly allowed (report journal : Attempt I Unit) := by
  intro history error failed
  cases (follows_report.mp failed).2

theorem failsOnly_throw {error : BootError} (permitted : allowed error) :
    FailsOnly allowed (throw error : Attempt I α) := by
  intro history error failed
  obtain ⟨-, ⟨⟩⟩ := follows_throw.mp failed
  exact permitted

theorem failsOnly_fail {error : BootError} {entry : Entry} (permitted : allowed error) :
    FailsOnly allowed (fail error entry : Attempt I α) := by
  intro history error failed
  obtain ⟨-, ⟨⟩⟩ := follows_fail.mp failed
  exact permitted

theorem failsOnly_checked [Fault φ] (checked : Except φ α)
    (permitted : ∀ fault, checked = .error fault → allowed (Fault.error fault)) :
    FailsOnly allowed (ExceptT.mk (pure (Fault.simplify checked)) : Attempt I α) := by
  intro history error failed
  obtain ⟨-, same⟩ := follows_checked.mp failed
  cases checked with
  | ok value => cases same
  | error fault =>
      cases same
      exact permitted fault rfl

theorem failsOnly_ofChecked [Fault φ] (checked : Except φ α)
    (permitted : ∀ fault, checked = .error fault → allowed (Fault.error fault)) :
    FailsOnly allowed (ofChecked checked : Attempt I α) := by
  intro history error failed
  exact failsOnly_checked (I := I) checked permitted history error
    (follows_checked.mpr (follows_ofChecked.mp failed))

theorem FailsOnly.bind {attempt : Attempt I α} {next : α → Attempt I β}
    (first : attempt.FailsOnly allowed) (rest : ∀ value, (next value).FailsOnly allowed) :
    FailsOnly allowed (attempt >>= next) := by
  intro history error failed
  obtain ⟨_, early, ⟨⟩⟩ | ⟨value, _, later, -, late, -⟩ := follows_bind.mp failed
  · exact first history error early
  · exact rest value later error late

theorem failsOnly_ask {question : I.Call} {next : I.Reply question → Attempt I β}
    (rest : ∀ reply, (next reply).FailsOnly allowed) :
    FailsOnly allowed (liftM (Program.call question) >>= next) := by
  intro history error failed
  obtain ⟨reply, later, -, late⟩ := follows_ask.mp failed
  exact rest reply later error late

theorem FailsOnly.onFailure {release : Program I Unit} {attempt : Attempt I α}
    (first : attempt.FailsOnly allowed) : FailsOnly allowed (Attempt.onFailure release attempt) := by
  intro history error failed
  obtain ⟨_, -, ⟨⟩⟩ | ⟨_, early, _, stopped, -, ⟨⟩, -⟩ := follows_onFailure.mp failed
  exact first early error stopped

end FailsOnly

/-- Told nothing but what is given, an attempt asks no question and fails with no error but those allowed, and what
it ends with has the property. -/
def Meets (given : Exchange I → Prop) (asks : I.Call → Prop) (fails : BootError → Prop) (attempt : Attempt I α)
    (ends : α → Prop) : Prop :=
  ∀ history verdict, attempt.Follows history verdict → (∀ exchange ∈ history, given exchange) →
    (∀ exchange ∈ history, asks exchange.call) ∧
      match verdict with
      | .error error => fails error
      | .ok value => ends value

section Meets

variable {given : Exchange I → Prop} {asks : I.Call → Prop} {fails : BootError → Prop} {ends : α → Prop}

/-- An attempt that asks nothing is judged by its verdict. -/
theorem meets_settled {attempt : Attempt I α} {checked : Except BootError α}
    (settles : ∀ history verdict, attempt.Follows history verdict → history = [] ∧ verdict = checked)
    (failing : ∀ error, checked = .error error → fails error) (ending : ∀ value, checked = .ok value → ends value) :
    Meets given asks fails attempt ends := by
  intro history verdict follows _
  obtain ⟨rfl, rfl⟩ := settles history verdict follows
  refine ⟨List.forall_mem_nil _, ?_⟩
  cases verdict with
  | error error => exact failing error rfl
  | ok value => exact ending value rfl

theorem meets_pure {value : α} (ending : ends value) : Meets given asks fails (pure value : Attempt I α) ends := by
  intro history verdict follows _
  obtain ⟨rfl, rfl⟩ := follows_pure.mp follows
  exact ⟨List.forall_mem_nil _, ending⟩

theorem meets_fail {error : BootError} {entry : Entry} (failing : fails error) :
    Meets given asks fails (fail error entry : Attempt I α) ends := by
  intro history verdict follows _
  obtain ⟨rfl, rfl⟩ := follows_fail.mp follows
  exact ⟨List.forall_mem_nil _, failing⟩

theorem meets_report_bind {journal : Journal} {next : Unit → Attempt I α}
    (rest : Meets given asks fails (next ()) ends) : Meets given asks fails (report journal >>= next) ends := by
  intro history verdict follows told
  exact rest history verdict (follows_report_bind.mp follows) told

theorem Meets.bind {attempt : Attempt I β} {next : β → Attempt I α} {middle : β → Prop}
    (first : Meets given asks fails attempt middle)
    (rest : ∀ value, middle value → Meets given asks fails (next value) ends) :
    Meets given asks fails (attempt >>= next) ends := by
  intro history verdict follows told
  obtain ⟨error, failed, rfl⟩ | ⟨value, early, late, done, continued, rfl⟩ := follows_bind.mp follows
  · exact first history (.error error) failed told
  · obtain ⟨toldEarly, toldLate⟩ := List.forall_mem_append.mp told
    obtain ⟨asked, reached⟩ := first early (.ok value) done toldEarly
    obtain ⟨askedLate, ended⟩ := rest value reached late verdict continued toldLate
    exact ⟨List.forall_mem_append.mpr ⟨asked, askedLate⟩, ended⟩

theorem meets_ask {question : I.Call} {next : I.Reply question → Attempt I α} (allowed : asks question)
    (rest : ∀ reply, given ⟨question, reply⟩ → Meets given asks fails (next reply) ends) :
    Meets given asks fails (liftM (Program.call question) >>= next) ends := by
  intro history verdict follows told
  obtain ⟨reply, later, rfl, continued⟩ := follows_ask.mp follows
  obtain ⟨answer, toldLater⟩ := List.forall_mem_cons.mp told
  obtain ⟨asked, ended⟩ := rest reply answer later verdict continued toldLater
  exact ⟨List.forall_mem_cons.mpr ⟨allowed, asked⟩, ended⟩

theorem Meets.ensuring {release : Program I Unit} {attempt : Attempt I α}
    (first : Meets given asks fails attempt ends) (releases : release.Confined asks) :
    Meets given asks fails (Attempt.ensuring release attempt) ends := by
  intro history verdict follows told
  obtain ⟨early, late, done, released, rfl⟩ := follows_ensuring.mp follows
  obtain ⟨asked, ended⟩ := first early verdict done (List.forall_mem_append.mp told).1
  exact ⟨List.forall_mem_append.mpr ⟨asked, releases.history released⟩, ended⟩

theorem Meets.onFailure {release : Program I Unit} {attempt : Attempt I α}
    (first : Meets given asks fails attempt ends) (releases : release.Confined asks) :
    Meets given asks fails (Attempt.onFailure release attempt) ends := by
  intro history verdict follows told
  obtain ⟨value, done, rfl⟩ | ⟨error, early, late, failed, released, rfl, rfl⟩ := follows_onFailure.mp follows
  · exact first history (.ok value) done told
  · obtain ⟨asked, failing⟩ := first early (.error error) failed (List.forall_mem_append.mp told).1
    exact ⟨List.forall_mem_append.mpr ⟨asked, releases.history released⟩, failing⟩

end Meets

end Attempt

end EfiHandoff
