import EfiHandoff.Proofs.Program.Attempt
import Mathlib.Data.List.Forall2

/-!
# Coupled programs

Two programs are coupled when they ask alike as long as they are told alike, and end alike. What they write into
their journals does not matter. Coupling goes through every way to put programs together, and two runs of coupled
programs stay alike to the end.
-/

set_option autoImplicit false

namespace EfiHandoff

section Alike

variable {I : Interface}

def AskedAlike (alike : Exchange I → Exchange I → Prop) (left right : I.Call) : Prop :=
  ∃ reply answer, alike ⟨left, reply⟩ ⟨right, answer⟩

/-- Where two runs ask alike, they are told alike. -/
def ToldAlike (alike : Exchange I → Exchange I → Prop) : History I → History I → Prop
  | left :: lefts, right :: rights =>
      (AskedAlike alike left.call right.call → alike left right) ∧ ToldAlike alike lefts rights
  | _, _ => True

end Alike

namespace Program

variable {I : Interface} {α β γ δ : Type} {alike : Exchange I → Exchange I → Prop}

inductive Coupled (alike : Exchange I → Exchange I → Prop) (ends : α → β → Prop) :
    Program I α → Program I β → Prop where
  | done {left : α} {right : β} (ended : ends left right) : Coupled alike ends (.done left) (.done right)
  | noteLeft {entry : Entry} {left : Program I α} {right : Program I β} (rest : Coupled alike ends left right) :
      Coupled alike ends (.note entry left) right
  | noteRight {entry : Entry} {left : Program I α} {right : Program I β} (rest : Coupled alike ends left right) :
      Coupled alike ends left (.note entry right)
  | ask {left right : I.Call} {next : I.Reply left → Program I α} {other : I.Reply right → Program I β}
      (asked : AskedAlike alike left right)
      (rest : ∀ reply answer, alike ⟨left, reply⟩ ⟨right, answer⟩ →
        Coupled alike ends (next reply) (other answer)) :
      Coupled alike ends (.ask left next) (.ask right other)

variable {ends : α → β → Prop} {left : Program I α} {right : Program I β}

/-- Two runs of coupled programs that are told alike stay alike to the end. -/
theorem Coupled.runs {lefts rights : History I} {ending : α} {other : β} (coupled : Coupled alike ends left right)
    (followsLeft : left.Follows lefts ending) (followsRight : right.Follows rights other)
    (told : ToldAlike alike lefts rights) : List.Forall₂ alike lefts rights ∧ ends ending other := by
  induction coupled generalizing lefts rights with
  | done ended =>
      obtain ⟨rfl, rfl⟩ := followsLeft
      obtain ⟨rfl, rfl⟩ := followsRight
      exact ⟨.nil, ended⟩
  | noteLeft rest ih => exact ih followsLeft followsRight told
  | noteRight rest ih => exact ih followsLeft followsRight told
  | ask asked rest ih =>
      obtain ⟨reply, later, rfl, continuedLeft⟩ := followsLeft
      obtain ⟨answer, others, rfl, continuedRight⟩ := followsRight
      obtain ⟨first, toldLater⟩ := told
      obtain ⟨same, ended⟩ := ih reply answer (first asked) continuedLeft continuedRight toldLater
      exact ⟨.cons (first asked) same, ended⟩

theorem Coupled.mono {wider : α → β → Prop} (coupled : Coupled alike ends left right)
    (weaker : ∀ value other, ends value other → wider value other) : Coupled alike wider left right := by
  induction coupled with
  | done ended => exact .done (weaker _ _ ended)
  | noteLeft rest ih => exact .noteLeft ih
  | noteRight rest ih => exact .noteRight ih
  | ask asked rest ih => exact .ask asked ih

theorem Coupled.bind {middle : γ → δ → Prop} {first : Program I γ} {second : Program I δ}
    {next : γ → Program I α} {other : δ → Program I β} (coupled : Coupled alike middle first second)
    (rest : ∀ value result, middle value result → Coupled alike ends (next value) (other result)) :
    Coupled alike ends (first >>= next) (second >>= other) := by
  induction coupled with
  | done ended => exact rest _ _ ended
  | noteLeft _ ih => exact .noteLeft ih
  | noteRight _ ih => exact .noteRight ih
  | ask asked _ ih => exact .ask asked ih

theorem coupled_report (journal other : Journal) :
    Coupled alike (· = ·) (report journal : Program I Unit) (report other) := by
  induction journal with
  | nil =>
      induction other with
      | nil => exact .done rfl
      | cons entry rest ih => exact .noteRight ih
  | cons entry rest ih => exact .noteLeft ih

theorem coupled_report_if {condition : Prop} [Decidable condition] {journal other : Journal} :
    Coupled alike (· = ·) (if condition then report journal else pure () : Program I Unit)
      (if condition then report other else pure ()) := by
  split
  · exact coupled_report journal other
  · exact .done rfl

/-- Likeness settles the answers to a question when it leaves only one of them. -/
def Settles (alike : Exchange I → Exchange I → Prop) (call : I.Call) : Prop :=
  AskedAlike alike call call ∧ ∀ reply answer, alike ⟨call, reply⟩ ⟨call, answer⟩ → reply = answer

/-- A program is coupled with itself when it asks nothing but settled questions. -/
theorem Confined.coupled {program : Program I α} (confined : program.Confined (Settles alike)) :
    Coupled alike (· = ·) program program := by
  induction program with
  | done ending => exact .done rfl
  | note entry rest ih => exact .noteLeft (.noteRight (ih confined))
  | ask call resume ih =>
      obtain ⟨⟨asked, settled⟩, rest⟩ := confined
      refine .ask asked fun reply answer same => ?_
      obtain rfl := settled reply answer same
      exact ih reply (rest reply)

end Program

inductive SameVerdict {α β : Type} (ends : α → β → Prop) : Except BootError α → Except BootError β → Prop
  | error {error : BootError} : SameVerdict ends (.error error) (.error error)
  | ok {left : α} {right : β} (ended : ends left right) : SameVerdict ends (.ok left) (.ok right)

namespace Attempt

variable {I : Interface} {α β γ δ : Type} {alike : Exchange I → Exchange I → Prop} {ends : α → β → Prop}
  {left : Attempt I α} {right : Attempt I β}

def Coupled (alike : Exchange I → Exchange I → Prop) (ends : α → β → Prop) (left : Attempt I α)
    (right : Attempt I β) : Prop :=
  Program.Coupled alike (SameVerdict ends) left.run right.run

theorem coupled_pure {value : α} {other : β} (ended : ends value other) :
    Coupled alike ends (pure value : Attempt I α) (pure other) :=
  .done (.ok ended)

theorem coupled_throw {error : BootError} :
    Coupled alike ends (throw error : Attempt I α) (throw error : Attempt I β) :=
  .done .error

theorem Coupled.bind {middle : γ → δ → Prop} {first : Attempt I γ} {second : Attempt I δ}
    {next : γ → Attempt I α} {other : δ → Attempt I β} (coupled : Coupled alike middle first second)
    (rest : ∀ value result, middle value result → Coupled alike ends (next value) (other result)) :
    Coupled alike ends (first >>= next) (second >>= other) := by
  refine Program.Coupled.bind coupled fun verdict result same => ?_
  cases same with
  | error => exact .done .error
  | ok ended => exact rest _ _ ended

theorem coupled_lift {first : Program I α} {second : Program I β} (coupled : first.Coupled alike ends second) :
    Coupled alike ends (liftM first : Attempt I α) (liftM second : Attempt I β) :=
  Program.Coupled.bind coupled fun _ _ ended => .done (.ok ended)

theorem coupled_report_bind {journal other : Journal} {next : Unit → Attempt I α} {last : Unit → Attempt I β}
    (rest : Coupled alike ends (next ()) (last ())) :
    Coupled alike ends (report journal >>= next) (report other >>= last) :=
  (coupled_lift (Program.coupled_report journal other)).bind fun _ _ _ => rest

theorem coupled_fail {error : BootError} {entry other : Entry} :
    Coupled alike ends (fail error entry : Attempt I α) (fail error other : Attempt I β) :=
  coupled_report_bind coupled_throw

theorem coupled_ask {question other : I.Call} {next : I.Reply question → Attempt I α}
    {last : I.Reply other → Attempt I β} (asked : AskedAlike alike question other)
    (rest : ∀ reply answer, alike ⟨question, reply⟩ ⟨other, answer⟩ →
      Coupled alike ends (next reply) (last answer)) :
    Coupled alike ends (liftM (Program.call question) >>= next) (liftM (Program.call other) >>= last) :=
  .ask asked rest

theorem Coupled.ensuring {release other : Program I Unit} (coupled : Coupled alike ends left right)
    (releases : release.Coupled alike (· = ·) other) :
    Coupled alike ends (ensuring release left) (ensuring other right) :=
  Program.Coupled.bind coupled fun _ _ same => releases.bind fun _ _ _ => .done same

theorem Coupled.onFailure {release other : Program I Unit} (coupled : Coupled alike ends left right)
    (releases : release.Coupled alike (· = ·) other) :
    Coupled alike ends (onFailure release left) (onFailure other right) := by
  refine Program.Coupled.bind coupled fun verdict result same => ?_
  cases same with
  | error => exact releases.bind fun _ _ _ => .done .error
  | ok ended => exact .done (.ok ended)

theorem Confined.coupled {attempt : Attempt I α} (confined : attempt.Confined (Program.Settles alike)) :
    Coupled alike (· = ·) attempt attempt := by
  refine Program.Coupled.mono (Program.Confined.coupled confined) fun verdict result same => ?_
  subst same
  cases verdict with
  | error error => exact .error
  | ok value => exact .ok rfl

end Attempt

end EfiHandoff
