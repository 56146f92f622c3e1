import EfiHandoff.Proofs.Program.Attempt
import EfiHandoff.Proofs.Program.Interpretation

/-!
# What a failure leaves behind

A program with its history and its journal: what it asked, what it was told, and what it wrote on the way. Something
may be said of every failure of an attempt, going by both, when it can be said where the failure arises and nothing
that is asked or written besides takes it back.
-/

set_option autoImplicit false

namespace EfiHandoff

namespace Program

variable {I J : Interface} {α β σ : Type} {history : History I} {journal : Journal}

def Traces : Program I α → History I → Journal → α → Prop
  | .done ending, history, journal, result => history = [] ∧ journal = [] ∧ result = ending
  | .note entry rest, history, journal, result =>
      ∃ later, journal = entry :: later ∧ rest.Traces history later result
  | .ask call resume, history, journal, result =>
      ∃ reply later, history = ⟨call, reply⟩ :: later ∧ (resume reply).Traces later journal result

theorem Traces.follows {program : Program I α} {result : α} (traces : program.Traces history journal result) :
    program.Follows history result := by
  induction program generalizing history journal with
  | done ending =>
      obtain ⟨rfl, -, rfl⟩ := traces
      exact ⟨rfl, rfl⟩
  | note entry rest ih =>
      obtain ⟨later, -, continued⟩ := traces
      exact ih continued
  | ask call resume ih =>
      obtain ⟨reply, later, rfl, continued⟩ := traces
      exact ⟨reply, later, rfl, ih reply continued⟩

theorem traces_report {written : Journal} {result : Unit} :
    (report written : Program I Unit).Traces history journal result ↔ history = [] ∧ journal = written := by
  induction written generalizing journal with
  | nil => exact ⟨fun traces => ⟨traces.1, traces.2.1⟩, fun empty => ⟨empty.1, empty.2, rfl⟩⟩
  | cons entry rest ih =>
      constructor
      · rintro ⟨later, rfl, continued⟩
        obtain ⟨rfl, rfl⟩ := ih.mp continued
        exact ⟨rfl, rfl⟩
      · rintro ⟨rfl, rfl⟩
        exact ⟨rest, rfl, ih.mpr ⟨rfl, rfl⟩⟩

/-- A sequence of programs asks and writes what the first does and then what the second does. -/
theorem traces_bind {program : Program I α} {next : α → Program I β} {result : β} :
    (program >>= next).Traces history journal result ↔
      ∃ value first second early late, program.Traces first early value ∧
        (next value).Traces second late result ∧ history = first ++ second ∧ journal = early ++ late := by
  induction program generalizing history journal with
  | done ending =>
      constructor
      · intro traces
        exact ⟨ending, [], history, [], journal, ⟨rfl, rfl, rfl⟩, traces, rfl, rfl⟩
      · rintro ⟨value, first, second, early, late, ⟨rfl, rfl, rfl⟩, traces, rfl, rfl⟩
        exact traces
  | note entry rest ih =>
      constructor
      · rintro ⟨later, rfl, traces⟩
        obtain ⟨value, first, second, early, late, started, continued, rfl, rfl⟩ := ih.mp traces
        exact ⟨value, first, second, entry :: early, late, ⟨early, rfl, started⟩, continued, rfl, rfl⟩
      · rintro ⟨value, first, second, early, late, ⟨between, rfl, started⟩, continued, rfl, rfl⟩
        exact ⟨between ++ late, rfl, ih.mpr ⟨value, first, second, between, late, started, continued, rfl, rfl⟩⟩
  | ask call resume ih =>
      constructor
      · rintro ⟨reply, later, rfl, traces⟩
        obtain ⟨value, first, second, early, late, started, continued, rfl, rfl⟩ := (ih reply).mp traces
        exact ⟨value, ⟨call, reply⟩ :: first, second, early, late, ⟨reply, first, rfl, started⟩, continued, rfl, rfl⟩
      · rintro ⟨value, first, second, early, late, ⟨reply, between, rfl, started⟩, continued, rfl, rfl⟩
        exact ⟨reply, between ++ second, rfl,
          (ih reply).mpr ⟨value, between, second, early, late, started, continued, rfl, rfl⟩⟩

/-- A run on a machine writes the journal it leaves. -/
theorem traces_run (machine : Machine I σ) (program : Program I α) (state : σ) :
    program.Traces (program.history machine state) (program.run machine state).journal
      (program.run machine state).result := by
  induction program generalizing state with
  | done ending => exact ⟨rfl, rfl, rfl⟩
  | note entry rest ih => exact ⟨_, rfl, ih state⟩
  | ask question resume ih =>
      exact ⟨(machine.answer question state).1, _, rfl, ih _ (machine.answer question state).2⟩

/-- Where questions are answered by programs, what the program itself writes is written, and so is what the answer to
each of its questions writes. -/
theorem traces_interpret {answer : (question : I.Call) → Program J (I.Reply question)} {program : Program I α}
    {below : History J} {result : α} (traces : (program.interpret answer).Traces below journal result) :
    ∃ above own, program.Traces above own result ∧ own ⊆ journal ∧
      ∀ exchange ∈ above, ∃ stretch written, (answer exchange.call).Traces stretch written exchange.reply ∧
        stretch ⊆ below ∧ written ⊆ journal := by
  induction program generalizing below journal with
  | done ending =>
      obtain ⟨rfl, rfl, rfl⟩ := traces
      exact ⟨[], [], ⟨rfl, rfl, rfl⟩, List.Subset.refl _, List.forall_mem_nil _⟩
  | note entry rest ih =>
      obtain ⟨later, rfl, continued⟩ := traces
      obtain ⟨above, own, follows, kept, answered⟩ := ih continued
      refine ⟨above, entry :: own, ⟨own, rfl, follows⟩, List.cons_subset_cons entry kept, ?_⟩
      intro exchange member
      obtain ⟨stretch, written, given, inside, among⟩ := answered exchange member
      exact ⟨stretch, written, given, inside, List.subset_cons_of_subset entry among⟩
  | ask question resume ih =>
      obtain ⟨reply, first, second, early, late, given, continued, rfl, rfl⟩ := traces_bind.mp traces
      obtain ⟨above, own, follows, kept, answered⟩ := ih reply continued
      refine ⟨⟨question, reply⟩ :: above, own, ⟨reply, above, rfl, follows⟩,
        List.subset_append_of_subset_right early kept, List.forall_mem_cons.mpr ⟨?_, ?_⟩⟩
      · exact ⟨first, early, given, List.subset_append_left first second, List.subset_append_left early late⟩
      · intro exchange member
        obtain ⟨stretch, written, given, inside, among⟩ := answered exchange member
        exact ⟨stretch, written, given, List.subset_append_of_subset_right first inside,
          List.subset_append_of_subset_right early among⟩

end Program

/-- What may be said of a failure, going by what was asked and written around it. -/
structure Testimony (I : Interface) where
  holds : History I → Journal → BootError → Prop
  grows : ∀ {history wider : History I} {journal longer : Journal} {error : BootError},
    history ⊆ wider → journal ⊆ longer → holds history journal error → holds wider longer error

namespace Testimony

variable {I : Interface}

def after (testimony : Testimony I) (history : History I) (journal : Journal) : Testimony I where
  holds later written error := testimony.holds (history ++ later) (journal ++ written) error
  grows asked written :=
    testimony.grows
      (List.append_subset.mpr ⟨List.subset_append_left .., List.subset_append_of_subset_right history asked⟩)
      (List.append_subset.mpr ⟨List.subset_append_left .., List.subset_append_of_subset_right journal written⟩)

def and (testimony other : Testimony I) : Testimony I where
  holds history journal error := testimony.holds history journal error ∧ other.holds history journal error
  grows asked written both := ⟨testimony.grows asked written both.1, other.grows asked written both.2⟩

def or (testimony other : Testimony I) : Testimony I where
  holds history journal error := testimony.holds history journal error ∨ other.holds history journal error
  grows asked written either := either.imp (testimony.grows asked written) (other.grows asked written)

end Testimony

namespace Attempt

variable {I : Interface} {α β φ : Type} {testimony : Testimony I}

/-- Whatever an attempt is told, the testimony holds where it fails. -/
def Bears (testimony : Testimony I) (attempt : Attempt I α) : Prop :=
  ∀ history journal error, attempt.run.Traces history journal (.error error) → testimony.holds history journal error

theorem Bears.mono {attempt : Attempt I α} {other : Testimony I} (bears : attempt.Bears testimony)
    (weaker : ∀ history journal error, testimony.holds history journal error → other.holds history journal error) :
    attempt.Bears other :=
  fun history journal error traces => weaker history journal error (bears history journal error traces)

theorem Bears.after {attempt : Attempt I α} (bears : attempt.Bears testimony) (history : History I)
    (journal : Journal) : attempt.Bears (testimony.after history journal) :=
  bears.mono fun later written _ =>
    testimony.grows (List.subset_append_right history later) (List.subset_append_right journal written)

theorem bears_pure {value : α} : Bears testimony (pure value : Attempt I α) := by
  rintro history journal error ⟨-, -, ⟨⟩⟩

theorem bears_throw {error : BootError} (failing : testimony.holds [] [] error) :
    Bears testimony (throw error : Attempt I α) := by
  rintro history journal other ⟨rfl, rfl, ⟨⟩⟩
  exact failing

theorem bears_checked {checked : Except BootError α}
    (failing : ∀ error, checked = .error error → testimony.holds [] [] error) :
    Bears testimony (ExceptT.mk (pure checked) : Attempt I α) := by
  rintro history journal error ⟨rfl, rfl, failed⟩
  exact failing error failed.symm

theorem Bears.bind {attempt : Attempt I β} {next : β → Attempt I α} (first : Bears testimony attempt)
    (rest : ∀ value, Bears testimony (next value)) : Bears testimony (attempt >>= next) := by
  intro history journal error traces
  obtain ⟨outcome, asked, later, early, late, started, continued, rfl, rfl⟩ :=
    Program.traces_bind.mp (run_bind attempt next ▸ traces)
  cases outcome with
  | error error =>
      obtain ⟨rfl, rfl, ⟨⟩⟩ := continued
      rw [List.append_nil, List.append_nil]
      exact first asked early error started
  | ok value =>
      exact testimony.grows (List.subset_append_right asked later) (List.subset_append_right early late)
        (rest value later late error continued)

/-- What was asked by then is known to what goes on. -/
theorem Bears.bindFollowing {attempt : Attempt I β} {next : β → Attempt I α} (first : Bears testimony attempt)
    (rest : ∀ asked value, attempt.Follows asked (.ok value) → Bears (testimony.after asked []) (next value)) :
    Bears testimony (attempt >>= next) := by
  intro history journal error traces
  obtain ⟨outcome, asked, later, early, late, started, continued, rfl, rfl⟩ :=
    Program.traces_bind.mp (run_bind attempt next ▸ traces)
  cases outcome with
  | error error =>
      obtain ⟨rfl, rfl, ⟨⟩⟩ := continued
      rw [List.append_nil, List.append_nil]
      exact first asked early error started
  | ok value =>
      exact testimony.grows (List.Subset.refl _) (List.subset_append_right early late)
        (rest asked value started.follows later late error continued)

theorem bears_lift (program : Program I α) : Bears testimony (liftM program : Attempt I α) := by
  intro history journal error traces
  obtain ⟨value, first, second, early, late, -, ⟨-, -, ⟨⟩⟩, -, -⟩ :=
    Program.traces_bind.mp (run_lift program ▸ traces)

theorem bears_ask {question : I.Call} {next : I.Reply question → Attempt I α}
    (rest : ∀ reply, Bears (testimony.after [⟨question, reply⟩] []) (next reply)) :
    Bears testimony (liftM (Program.call question) >>= next) := by
  rintro history journal error ⟨reply, later, rfl, continued⟩
  exact rest reply later journal error continued

theorem bears_report_bind {journal : Journal} {next : Unit → Attempt I α}
    (rest : Bears (testimony.after [] journal) (next ())) : Bears testimony (report journal >>= next) := by
  intro history written error traces
  obtain ⟨outcome, asked, later, early, late, reported, continued, rfl, rfl⟩ :=
    Program.traces_bind.mp (run_bind (report journal) next ▸ traces)
  obtain ⟨⟨⟩, first, second, head, tail, wrote, ⟨rfl, rfl, rfl⟩, rfl, rfl⟩ :=
    Program.traces_bind.mp (run_lift (Program.report journal) ▸ reported)
  obtain ⟨rfl, rfl⟩ := Program.traces_report.mp wrote
  rw [List.append_nil head]
  exact rest later late error continued

theorem bears_fail {error : BootError} {entry : Entry} (failing : testimony.holds [] [entry] error) :
    Bears testimony (fail error entry : Attempt I α) :=
  bears_report_bind (bears_throw failing)

theorem bears_ofChecked [Fault φ] {checked : Except φ α}
    (failing : ∀ fault, checked = .error fault → testimony.holds [] (Fault.journal fault) (Fault.error fault)) :
    Bears testimony (ofChecked checked) := by
  cases checked with
  | error fault =>
      have failed := failing fault rfl
      rw [← List.append_nil (Fault.journal fault)] at failed
      exact bears_report_bind (bears_throw failed)
  | ok value => exact bears_pure

theorem bears_ofChecked_bind [Fault φ] {checked : Except φ β} {next : β → Attempt I α}
    (failing : ∀ fault, checked = .error fault → testimony.holds [] (Fault.journal fault) (Fault.error fault))
    (rest : ∀ value, checked = .ok value → Bears testimony (next value)) :
    Bears testimony (ofChecked checked >>= next) :=
  (bears_ofChecked failing).bindFollowing fun asked value passed =>
    (rest value (Fault.simplify_eq_ok_iff.mp (follows_ofChecked.mp passed).2.symm)).after asked []

theorem Bears.ensuring {release : Program I Unit} {attempt : Attempt I α} (bears : Bears testimony attempt) :
    Bears testimony (Attempt.ensuring release attempt) := by
  intro history journal error traces
  obtain ⟨outcome, asked, later, early, late, started, released, rfl, rfl⟩ := Program.traces_bind.mp traces
  obtain ⟨⟨⟩, first, second, head, tail, -, ⟨rfl, rfl, rfl⟩, rfl, rfl⟩ := Program.traces_bind.mp released
  exact testimony.grows (List.subset_append_left ..) (List.subset_append_left ..) (bears asked early error started)

theorem Bears.onFailure {release : Program I Unit} {attempt : Attempt I α} (bears : Bears testimony attempt) :
    Bears testimony (Attempt.onFailure release attempt) := by
  intro history journal error traces
  obtain ⟨outcome, asked, later, early, late, started, ended, rfl, rfl⟩ := Program.traces_bind.mp traces
  cases outcome with
  | ok value => obtain ⟨-, -, ⟨⟩⟩ := ended
  | error stopped =>
      obtain ⟨⟨⟩, first, second, head, tail, -, ⟨rfl, rfl, ⟨⟩⟩, rfl, rfl⟩ := Program.traces_bind.mp ended
      exact testimony.grows (List.subset_append_left ..) (List.subset_append_left ..) (bears asked early error started)

/-- The testimony holds for a run on a machine that fails, if its questions are answered by programs. -/
theorem Bears.run_interpreted {J : Interface} {σ : Type} {attempt : Attempt I α}
    {answer : (question : I.Call) → Program J (I.Reply question)} (bears : attempt.Bears testimony)
    {machine : Machine J σ} {state : σ} {error : BootError}
    (failed : ((attempt.run.interpret answer).run machine state).result = .error error) :
    let program := attempt.run.interpret answer
    ∃ above own, testimony.holds above own error ∧ own ⊆ (program.run machine state).journal ∧
      ∀ exchange ∈ above, ∃ stretch written, (answer exchange.call).Traces stretch written exchange.reply ∧
        stretch ⊆ program.history machine state ∧ written ⊆ (program.run machine state).journal := by
  intro program
  have traces := Program.traces_run machine program state
  rw [failed] at traces
  obtain ⟨above, own, asked, kept, answered⟩ := Program.traces_interpret traces
  exact ⟨above, own, bears above own error asked, kept, answered⟩

end Attempt

end EfiHandoff
