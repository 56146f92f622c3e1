import EfiHandoff.Proofs.Program.Interpretation

/-!
# Custody of what is in use

Besides what an exchange acquires or gives back there is what its question works on. A history keeps custody when
everything that is worked on or given back is held at that time: then nothing is used before it is acquired, nor after
it was given back.
-/

set_option autoImplicit false

namespace EfiHandoff

/-- An account of things, with the thing that each question works on. -/
structure Custody (I : Interface) (R : Type) where
  account : Account I R
  worksOn : I.Call → Option R

namespace Custody

variable {I J : Interface} {R : Type} [DecidableEq R]

/-- A history turns the things held at its start into those held at its finish, and whatever it works on is held when
it does so. -/
inductive Kept (custody : Custody I R) : List R → History I → List R → Prop
  | nil {held : List R} : Kept custody held [] held
  | step {exchange : Exchange I} {later : History I} {held next finish : List R}
      (holds : ∀ thing, custody.worksOn exchange.call = some thing → thing ∈ held)
      (applied : (custody.account.effect exchange).apply held = some next)
      (rest : Kept custody next later finish) : Kept custody held (exchange :: later) finish

/-- Whatever a history acquires it gives back, once, and in between is the only time at which it is worked on. -/
structure Settles (custody : Custody I R) (history : History I) : Prop where
  balances : custody.account.Balances history
  inHand : ∀ before exchange after, history = before ++ exchange :: after →
    ∀ thing, custody.worksOn exchange.call = some thing →
      ∃ held, custody.account.held [] before = some held ∧ thing ∈ held

section Kept

variable {custody : Custody I R} {history early late : History I} {start middle finish : List R}

theorem Kept.on {exchange : Exchange I} {thing : R} {next : List R} (works : custody.worksOn exchange.call = some thing)
    (member : thing ∈ start) (applied : (custody.account.effect exchange).apply start = some next)
    (rest : custody.Kept next late finish) : custody.Kept start (exchange :: late) finish := by
  refine .step ?_ applied rest
  intro other same
  rw [works] at same
  cases same
  exact member

/-- What was acquired last is worked on once more, to give it back. -/
theorem Kept.releases {exchange : Exchange I} {thing : R} (works : custody.worksOn exchange.call = some thing)
    (effect : custody.account.effect exchange = .release thing) (rest : custody.Kept start late finish) :
    custody.Kept (thing :: start) (exchange :: late) finish := by
  refine .on works List.mem_cons_self ?_ rest
  rw [effect, Effect.apply, if_pos List.mem_cons_self, List.erase_cons_head]

theorem Kept.append (first : custody.Kept start early middle) (second : custody.Kept middle late finish) :
    custody.Kept start (early ++ late) finish := by
  induction first with
  | nil => exact second
  | step holds applied _ ih => exact .step holds applied (ih second)

theorem Kept.held (kept : custody.Kept start history finish) : custody.account.held start history = some finish := by
  induction kept with
  | nil => rfl
  | step _ applied _ ih =>
      rw [Account.held, applied]
      exact ih

/-- A history that is not about the things leaves them alone. -/
theorem Kept.idle (idle : ∀ exchange ∈ history, custody.account.effect exchange = .idle ∧
    custody.worksOn exchange.call = none) : custody.Kept start history start := by
  induction history with
  | nil => exact .nil
  | cons exchange later ih =>
      obtain ⟨⟨quiet, unused⟩, resting⟩ := List.forall_mem_cons.mp idle
      refine .step ?_ (congrArg (Effect.apply start) quiet) (ih resting)
      intro thing works
      rw [unused] at works
      cases works

/-- What is worked on somewhere in a history was acquired before, and not given back since. -/
theorem Kept.inHand {exchange : Exchange I} {thing : R} (kept : custody.Kept start history finish)
    (cut : history = early ++ exchange :: late) (works : custody.worksOn exchange.call = some thing) :
    ∃ held, custody.account.held start early = some held ∧ thing ∈ held := by
  induction early generalizing history start with
  | nil =>
      subst cut
      obtain _ | ⟨holds, -, -⟩ := kept
      exact ⟨start, rfl, holds thing works⟩
  | cons first early ih =>
      subst cut
      obtain _ | ⟨-, applied, rest⟩ := kept
      obtain ⟨held, before, member⟩ := ih rest rfl
      refine ⟨held, ?_, member⟩
      rw [Account.held, applied]
      exact before

theorem settles_of_kept (kept : ∀ held, custody.Kept held history held) : custody.Settles history where
  balances := Account.Moves.balances fun others => (kept others).held
  inHand _ _ _ cut _ works := (kept []).inHand cut works

end Kept

section Realizes

variable {upper : Custody I R} {lower : Custody J R}
  {answer : (question : I.Call) → Program J (I.Reply question)}

/-- Every answer keeps custody below, of what the exchange it gives works on, acquires and gives back above. -/
def Realizes (lower : Custody J R) (answer : (question : I.Call) → Program J (I.Reply question))
    (upper : Custody I R) : Prop :=
  ∀ question reply history held next, (answer question).Follows history reply →
    (∀ thing, upper.worksOn question = some thing → thing ∈ held) →
    (upper.account.effect ⟨question, reply⟩).apply held = some next → lower.Kept held history next

theorem Realizes.kept (realizes : lower.Realizes answer upper) {above : History I} {history : History J}
    {start finish : List R} (answered : Answered answer above history) (kept : upper.Kept start above finish) :
    lower.Kept start history finish := by
  induction answered generalizing start with
  | nil =>
      cases kept
      exact .nil
  | cons follows _ ih =>
      obtain _ | ⟨holds, applied, rest⟩ := kept
      exact (realizes _ _ _ _ _ follows holds applied).append (ih rest)

end Realizes

end Custody

end EfiHandoff
