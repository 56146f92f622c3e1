import EfiHandoff.Program

/-!
# Histories of programs

A program with a history is a path through its tree: the questions it asks, with answers that nothing is assumed
about. What holds of every history of a program holds whatever its surroundings do, and a machine picks one of
them.
-/

set_option autoImplicit false

namespace EfiHandoff

structure Exchange (I : Interface) where
  call : I.Call
  reply : I.Reply call

abbrev History (I : Interface) := List (Exchange I)

section Splitting

variable {α : Type} {first later before after : List α} {left right : α}

theorem split_cases (same : before ++ after = first ++ left :: later) :
    (∃ middle, first = before ++ middle ∧ after = middle ++ left :: later) ∨
      ∃ middle, before = first ++ left :: middle ∧ later = middle ++ after := by
  rcases List.append_eq_append_iff.mp same with ⟨middle, rfl, rest⟩ | ⟨middle, rfl, rest⟩
  · exact .inl ⟨middle, rfl, rest⟩
  · cases middle with
    | nil => exact .inl ⟨[], by rw [List.append_nil, List.append_nil], rest.symm⟩
    | cons head middle =>
        obtain ⟨rfl, rfl⟩ := List.cons.inj rest
        exact .inr ⟨middle, rfl, rfl⟩

/-- An element of a kind found only once in a list is found at one place. -/
theorem split_unique (kind : α → Prop) (same : first ++ left :: later = before ++ right :: after) (found : kind right)
    (early : ∀ other ∈ first, ¬ kind other) (late : ∀ other ∈ later, ¬ kind other) :
    before = first ∧ right = left ∧ after = later := by
  obtain ⟨middle, rfl, rest⟩ | ⟨middle, rfl, -⟩ := split_cases same
  · cases middle with
    | nil =>
        obtain ⟨rfl, rfl⟩ := List.cons.inj rest
        exact ⟨List.append_nil _, rfl, rfl⟩
    | cons head middle =>
        obtain ⟨rfl, rfl⟩ := List.cons.inj rest
        exact absurd found (late right (List.mem_append_right _ List.mem_cons_self))
  · exact absurd found (early right (List.mem_append_right _ List.mem_cons_self))

end Splitting

namespace Program

variable {I J : Interface} {α β σ : Type}

/-- Given the answers of the history, the program asks exactly its questions and ends with the result. -/
def Follows : Program I α → History I → α → Prop
  | .done ending, history, result => history = [] ∧ result = ending
  | .note _ rest, history, result => rest.Follows history result
  | .ask call resume, history, result =>
      ∃ reply later, history = ⟨call, reply⟩ :: later ∧ (resume reply).Follows later result

theorem follows_pure {ending result : α} {history : History I} :
    (pure ending : Program I α).Follows history result ↔ history = [] ∧ result = ending := Iff.rfl

theorem follows_call {question : I.Call} {reply : I.Reply question} {history : History I} :
    (call question : Program I _).Follows history reply ↔ history = [⟨question, reply⟩] := by
  constructor
  · intro assumed
    obtain ⟨given, later, rfl, rfl, rfl⟩ := assumed
    rfl
  · intro same
    subst same
    exact ⟨reply, [], rfl, rfl, rfl⟩

theorem follows_report {journal : Journal} {history : History I} {result : Unit} :
    (report journal : Program I Unit).Follows history result ↔ history = [] := by
  induction journal with
  | nil => exact ⟨fun follows => follows.1, fun empty => ⟨empty, rfl⟩⟩
  | cons entry rest ih => exact ih

theorem follows_report_if {condition : Prop} [Decidable condition] {journal : Journal}
    {history : History I} {result : Unit} :
    (if condition then report journal else pure () : Program I Unit).Follows history result ↔
      history = [] := by
  split
  · exact follows_report
  · exact ⟨fun follows => follows.1, fun empty => ⟨empty, rfl⟩⟩

/-- A sequence of programs follows a history that the first follows up to some place and the second from
there. -/
theorem follows_bind {program : Program I α} {next : α → Program I β} {history : History I}
    {result : β} :
    (program >>= next).Follows history result ↔
      ∃ value first second, program.Follows first value ∧ (next value).Follows second result ∧
        history = first ++ second := by
  induction program generalizing history with
  | done ending =>
      constructor
      · intro follows
        exact ⟨ending, [], history, ⟨rfl, rfl⟩, follows, rfl⟩
      · intro assumed
        obtain ⟨value, first, second, ⟨rfl, rfl⟩, follows, rfl⟩ := assumed
        exact follows
  | note entry rest ih => exact ih
  | ask call resume ih =>
      constructor
      · intro assumed
        obtain ⟨reply, later, rfl, follows⟩ := assumed
        obtain ⟨value, first, second, started, continued, rfl⟩ := (ih reply).mp follows
        exact ⟨value, ⟨call, reply⟩ :: first, second, ⟨reply, first, rfl, started⟩, continued, rfl⟩
      · intro assumed
        obtain ⟨value, first, second, ⟨reply, later, rfl, started⟩, continued, rfl⟩ := assumed
        exact ⟨reply, later ++ second, rfl,
          (ih reply).mpr ⟨value, later, second, started, continued, rfl⟩⟩

theorem follows_ask {question : I.Call} {next : I.Reply question → Program I β}
    {history : History I} {result : β} :
    (call question >>= next).Follows history result ↔
      ∃ reply later, history = ⟨question, reply⟩ :: later ∧ (next reply).Follows later result :=
  Iff.rfl

theorem follows_followedBy {program : Program I α} {after : Program I Unit} {history : History I}
    {result : α} :
    (program.followedBy after).Follows history result ↔
      ∃ first second, program.Follows first result ∧ after.Follows second () ∧
        history = first ++ second := by
  constructor
  · intro follows
    obtain ⟨value, first, rest, started, remaining, rfl⟩ := follows_bind.mp follows
    obtain ⟨⟨⟩, second, last, continued, ⟨rfl, rfl⟩, rfl⟩ := follows_bind.mp remaining
    exact ⟨first, second, started, continued, by rw [List.append_nil]⟩
  · intro assumed
    obtain ⟨first, second, started, continued, rfl⟩ := assumed
    have remaining : (do after; return result : Program I α).Follows (second ++ []) result :=
      follows_bind.mpr ⟨(), second, [], continued, ⟨rfl, rfl⟩, rfl⟩
    rw [List.append_nil] at remaining
    exact follows_bind.mpr ⟨result, first, second, started, remaining, rfl⟩

def Confined (allowed : I.Call → Prop) : Program I α → Prop
  | .done _ => True
  | .note _ rest => rest.Confined allowed
  | .ask call resume => allowed call ∧ ∀ reply, (resume reply).Confined allowed

section Confined

variable {allowed : I.Call → Prop}

theorem Confined.mono {wider : I.Call → Prop} {program : Program I α} (confined : program.Confined allowed)
    (weaker : ∀ call, allowed call → wider call) : program.Confined wider := by
  induction program with
  | done ending => exact trivial
  | note entry rest ih => exact ih confined
  | ask call resume ih => exact ⟨weaker call confined.1, fun reply => ih reply (confined.2 reply)⟩

theorem confined_report (journal : Journal) : (report journal : Program I Unit).Confined allowed := by
  induction journal with
  | nil => exact trivial
  | cons entry rest ih => exact ih

theorem confined_report_if {condition : Prop} [Decidable condition] {journal : Journal} :
    (if condition then report journal else pure () : Program I Unit).Confined allowed := by
  split
  · exact confined_report journal
  · exact trivial

theorem Confined.bind {program : Program I α} {next : α → Program I β}
    (first : program.Confined allowed) (rest : ∀ value, (next value).Confined allowed) :
    (program >>= next).Confined allowed := by
  induction program with
  | done ending => exact rest ending
  | note entry remaining ih => exact ih first
  | ask call resume ih => exact ⟨first.1, fun reply => ih reply (first.2 reply)⟩

theorem Confined.bindExcept {ε : Type} {attempt : ExceptT ε (Program I) α}
    {next : α → ExceptT ε (Program I) β} (first : Confined allowed attempt.run)
    (rest : ∀ value, Confined allowed (next value).run) :
    Confined allowed (attempt >>= next).run := by
  change Confined allowed (attempt.run >>= ExceptT.bindCont next)
  refine first.bind ?_
  intro outcome
  cases outcome with
  | error error => exact trivial
  | ok value => exact rest value

theorem Confined.followedBy {program : Program I α} {after : Program I Unit}
    (first : program.Confined allowed) (rest : after.Confined allowed) :
    (program.followedBy after).Confined allowed :=
  first.bind fun _ => rest.bind fun _ => trivial

theorem Confined.history {program : Program I α} {history : History I} {result : α}
    (confined : program.Confined allowed) (follows : program.Follows history result) :
    ∀ exchange ∈ history, allowed exchange.call := by
  induction program generalizing history with
  | done ending =>
      obtain ⟨rfl, -⟩ := follows
      exact List.forall_mem_nil _
  | note entry rest ih => exact ih confined follows
  | ask call resume ih =>
      obtain ⟨reply, later, rfl, continued⟩ := follows
      exact List.forall_mem_cons.mpr ⟨confined.1, ih reply (confined.2 reply) continued⟩

/-- A program to which no question is allowed asks none. -/
theorem Confined.silent {program : Program I α} {history : History I} {result : α}
    (confined : program.Confined fun _ => False) (follows : program.Follows history result) :
    history = [] :=
  List.eq_nil_iff_forall_not_mem.mpr fun exchange => confined.history follows exchange

end Confined

def history (machine : Machine I σ) : Program I α → σ → History I
  | .done _, _ => []
  | .note _ rest, state => rest.history machine state
  | .ask question resume, state =>
      let (reply, next) := machine.answer question state
      ⟨question, reply⟩ :: (resume reply).history machine next

theorem follows_history (machine : Machine I σ) (program : Program I α) (state : σ) :
    program.Follows (program.history machine state) (program.run machine state).result := by
  induction program generalizing state with
  | done ending => exact ⟨rfl, rfl⟩
  | note entry rest ih => exact ih state
  | ask question resume ih =>
      exact ⟨(machine.answer question state).1, _, rfl, ih _ (machine.answer question state).2⟩

end Program

namespace Machine

variable {I J : Interface} {α σ : Type}

def after (machine : Machine I σ) (state : σ) : History I → σ
  | [] => state
  | exchange :: later => machine.after (machine.answer exchange.call state).2 later

@[simp] theorem after_nil (machine : Machine I σ) (state : σ) : machine.after state [] = state := rfl

@[simp] theorem after_cons (machine : Machine I σ) (state : σ) (exchange : Exchange I)
    (later : History I) :
    machine.after state (exchange :: later) =
      machine.after (machine.answer exchange.call state).2 later := rfl

theorem after_append (machine : Machine I σ) (state : σ) (first second : History I) :
    machine.after state (first ++ second) = machine.after (machine.after state first) second := by
  induction first generalizing state with
  | nil => rfl
  | cons exchange first ih => exact ih _

/-- A machine gives the answers of a history when asked its questions. -/
def Gives (machine : Machine I σ) (state : σ) : History I → Prop
  | [] => True
  | exchange :: later =>
      exchange.reply = (machine.answer exchange.call state).1 ∧
        machine.Gives (machine.answer exchange.call state).2 later

theorem gives_append {machine : Machine I σ} {state : σ} {first second : History I} :
    machine.Gives state (first ++ second) ↔
      machine.Gives state first ∧ machine.Gives (machine.after state first) second := by
  induction first generalizing state with
  | nil => exact ⟨fun gives => ⟨trivial, gives⟩, fun gives => gives.2⟩
  | cons exchange first ih =>
      simp only [List.cons_append, Gives, ih, and_assoc, after_cons]

theorem Gives.mem {machine : Machine I σ} {state : σ} {history : History I} {exchange : Exchange I}
    (gives : machine.Gives state history) (member : exchange ∈ history) :
    ∃ found, exchange.reply = (machine.answer exchange.call found).1 := by
  obtain ⟨first, later, rfl⟩ := List.append_of_mem member
  exact ⟨machine.after state first, (gives_append.mp gives).2.1⟩

theorem gives_history (machine : Machine I σ) (program : Program I α) (state : σ) :
    machine.Gives state (program.history machine state) := by
  induction program generalizing state with
  | done => exact trivial
  | note entry rest ih => exact ih state
  | ask question resume ih => exact ⟨rfl, ih _ _⟩

theorem after_history (machine : Machine I σ) (program : Program I α) (state : σ) :
    machine.after state (program.history machine state) = (program.run machine state).state := by
  induction program generalizing state with
  | done => rfl
  | note entry rest ih => exact ih state
  | ask question resume ih => exact ih _ _

/-- A run is determined by the answers of its machine. -/
theorem run_of_gives {machine : Machine I σ} {program : Program I α} {state : σ} {history : History I}
    {result : α} (follows : program.Follows history result) (gives : machine.Gives state history) :
    (program.run machine state).result = result ∧
      (program.run machine state).state = machine.after state history := by
  induction program generalizing state history with
  | done ending =>
      obtain ⟨rfl, rfl⟩ := follows
      exact ⟨rfl, rfl⟩
  | note entry rest ih => exact ih follows gives
  | ask question resume ih =>
      obtain ⟨reply, later, rfl, continued⟩ := follows
      obtain ⟨same, given⟩ := gives
      obtain rfl : reply = (machine.answer question state).1 := same
      exact ih _ continued given

/-- The machine that answers each question by running a program on another one. -/
def through (machine : Machine J σ) (answer : (question : I.Call) → Program J (I.Reply question)) :
    Machine I σ where
  answer question state :=
    let run := (answer question).run machine state
    (run.result, run.state)

end Machine

/-- Interpreting a program and running it is running it on the machine that interprets. -/
theorem Program.run_interpret {I J : Interface} {α σ : Type} (machine : Machine J σ)
    (answer : (question : I.Call) → Program J (I.Reply question)) (program : Program I α) (state : σ) :
    ((program.interpret answer).run machine state).result =
        (program.run (machine.through answer) state).result ∧
      ((program.interpret answer).run machine state).state =
        (program.run (machine.through answer) state).state := by
  induction program generalizing state with
  | done => exact ⟨rfl, rfl⟩
  | note entry rest ih => exact ih state
  | ask question resume ih =>
      rw [Program.interpret, Program.run_bind]
      exact ih _ _

end EfiHandoff
