import EfiHandoff.Proofs.Program.Account

/-!
# Histories of interpreted programs

Where every question of a program is answered by a program over another interface, each exchange of the first
becomes a stretch of exchanges of the second.
-/

set_option autoImplicit false

namespace EfiHandoff

variable {I J : Interface} {α R : Type}

/-- The exchanges over one interface are answered, one after the other, by stretches of a history over another. -/
inductive Answered (answer : (question : I.Call) → Program J (I.Reply question)) :
    History I → History J → Prop where
  | nil : Answered answer [] []
  | cons {exchange : Exchange I} {above : History I} {first later : History J}
      (answered : (answer exchange.call).Follows first exchange.reply)
      (rest : Answered answer above later) : Answered answer (exchange :: above) (first ++ later)

variable {answer : (question : I.Call) → Program J (I.Reply question)}

theorem Program.follows_interpret {program : Program I α} {history : History J} {result : α}
    (follows : (program.interpret answer).Follows history result) :
    ∃ above, program.Follows above result ∧ Answered answer above history := by
  induction program generalizing history with
  | done ending =>
      obtain ⟨rfl, rfl⟩ := follows
      exact ⟨[], ⟨rfl, rfl⟩, .nil⟩
  | note entry rest ih => exact ih follows
  | ask question resume ih =>
      obtain ⟨reply, first, second, answered, continued, rfl⟩ := Program.follows_bind.mp follows
      obtain ⟨above, asked, rest⟩ := ih reply continued
      exact ⟨⟨question, reply⟩ :: above, ⟨reply, above, rfl, asked⟩, .cons answered rest⟩

/-- What is asked below belongs to the answer to something that is asked above. -/
theorem Answered.mem {above : History I} {history : History J} (answered : Answered answer above history)
    {exchange : Exchange J} (member : exchange ∈ history) :
    ∃ asked ∈ above, ∃ stretch, (answer asked.call).Follows stretch asked.reply ∧ exchange ∈ stretch := by
  induction answered with
  | nil => cases member
  | @cons asked above first later follows _ ih =>
      rcases List.mem_append.mp member with here | there
      · exact ⟨asked, List.mem_cons_self, first, follows, here⟩
      · obtain ⟨other, found, rest⟩ := ih there
        exact ⟨other, List.mem_cons_of_mem _ found, rest⟩

namespace Account

variable [DecidableEq R] {upper : Account I R} {lower : Account J R}

/-- Every answer has the effect below that the exchange it gives has above. -/
def Realizes (lower : Account J R) (answer : (question : I.Call) → Program J (I.Reply question))
    (upper : Account I R) : Prop :=
  ∀ question reply history start, (answer question).Follows history reply →
    lower.held start history = (upper.effect ⟨question, reply⟩).apply start

theorem Realizes.held (realizes : lower.Realizes answer upper) {above : History I}
    {history : History J} (answered : Answered answer above history) (start : List R) :
    lower.held start history = upper.held start above := by
  induction answered generalizing start with
  | nil => rfl
  | cons answered _ ih =>
      rw [held_append, realizes _ _ _ _ answered]
      exact congrArg _ (funext ih)

theorem Realizes.moves (realizes : lower.Realizes answer upper) {program : Program I α} {result : α}
    {history : History J} {start finish : List R}
    (moves : ∀ above, program.Follows above result → upper.Moves start above finish)
    (follows : (program.interpret answer).Follows history result) :
    lower.Moves start history finish := by
  obtain ⟨above, asked, answered⟩ := Program.follows_interpret follows
  intro others
  rw [realizes.held answered]
  exact moves above asked others

end Account

end EfiHandoff
