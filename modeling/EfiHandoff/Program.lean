import EfiHandoff.Fault

/-!
# Programs that talk to their surroundings

A program asks questions of an interface, goes on with the answers, and writes journal entries on the way. It is
a tree: what is asked next may depend on every answer so far, and nothing is assumed about the answers. Running
it against a machine follows one path through the tree, and a program over one interface becomes a program over
another when each question is answered by a program.
-/

set_option autoImplicit false

namespace EfiHandoff

/-- What can be asked, and what an answer to each question is. -/
structure Interface where
  Call : Type
  Reply : Call → Type

/-- A program with a result of type `α`. -/
inductive Program (I : Interface) (α : Type) : Type where
  | done (result : α)
  | note (entry : Entry) (rest : Program I α)
  | ask (call : I.Call) (resume : I.Reply call → Program I α)

namespace Program

variable {I J : Interface} {α β σ : Type}

def bind : Program I α → (α → Program I β) → Program I β
  | .done result, next => next result
  | .note entry rest, next => .note entry (bind rest next)
  | .ask call resume, next => .ask call fun reply => bind (resume reply) next

theorem bind_done (program : Program I α) : bind program .done = program := by
  induction program with
  | done result => rfl
  | note entry rest ih => simp only [bind, ih]
  | ask call resume ih => simp only [bind, ih]

theorem bind_assoc {γ : Type} (program : Program I α) (next : α → Program I β)
    (last : β → Program I γ) :
    bind (bind program next) last = bind program fun result => bind (next result) last := by
  induction program with
  | done result => rfl
  | note entry rest ih => simp only [bind, ih]
  | ask call resume ih => simp only [bind, ih]

instance : Monad (Program I) where
  pure := .done
  bind := bind

instance : LawfulMonad (Program I) :=
  LawfulMonad.mk' (Program I) (fun program => bind_done program) (fun _ _ => rfl)
    (fun program next last => bind_assoc program next last)

def call (question : I.Call) : Program I (I.Reply question) := .ask question .done

def report : Journal → Program I Unit
  | [] => .done ()
  | entry :: rest => .note entry (report rest)

def followedBy (program : Program I α) (after : Program I Unit) : Program I α := do
  let result ← program
  after
  return result

def interpret (answer : (question : I.Call) → Program J (I.Reply question)) :
    Program I α → Program J α
  | .done result => .done result
  | .note entry rest => .note entry (interpret answer rest)
  | .ask question resume => bind (answer question) fun reply => interpret answer (resume reply)

end Program

/-- A machine that answers questions, with a state that may change at each. -/
structure Machine (I : Interface) (σ : Type) where
  answer : (question : I.Call) → σ → I.Reply question × σ

structure Run (σ α : Type) where
  result : α
  state : σ
  journal : Journal

def Program.run {I : Interface} {α σ : Type} (machine : Machine I σ) :
    Program I α → σ → Run σ α
  | .done result, state => ⟨result, state, []⟩
  | .note entry rest, state =>
      let run := rest.run machine state
      { run with journal := entry :: run.journal }
  | .ask question resume, state =>
      let (reply, next) := machine.answer question state
      (resume reply).run machine next

/-- A sequence of programs runs the second where the first left off, and the journal holds the entries of both
in their order. -/
theorem Program.run_bind {I : Interface} {α β σ : Type} (machine : Machine I σ)
    (program : Program I α) (next : α → Program I β) (state : σ) :
    (program.bind next).run machine state =
      let first := program.run machine state
      let second := (next first.result).run machine first.state
      ⟨second.result, second.state, first.journal ++ second.journal⟩ := by
  induction program generalizing state with
  | done result => simp [Program.bind, Program.run]
  | note entry rest ih => simp [Program.bind, Program.run, ih]
  | ask question resume ih => simp [Program.bind, Program.run, ih]

abbrev Attempt (I : Interface) (α : Type) := ExceptT BootError (Program I) α

namespace Attempt

variable {I : Interface} {α φ : Type}

def report (journal : Journal) : Attempt I Unit := (Program.report journal : Program I Unit)

/-- Goes on with a checked value, or reports the fault and fails with its error. -/
def ofChecked [Fault φ] : Except φ α → Attempt I α
  | .ok value => return value
  | .error fault => do
      report (Fault.journal fault)
      throw (Fault.error fault)

def fail (error : BootError) (entry : Entry) : Attempt I α := do
  report [entry]
  throw error

def ensuring (release : Program I Unit) (attempt : Attempt I α) : Attempt I α :=
  ExceptT.mk (Program.followedBy attempt.run release)

def onFailure (release : Program I Unit) (attempt : Attempt I α) : Attempt I α :=
  ExceptT.mk do
    match ← attempt.run with
    | .ok value => return .ok value
    | .error error =>
        release
        return .error error

end Attempt

end EfiHandoff
