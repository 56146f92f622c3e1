import EfiHandoff.Proofs.Program.History
import Mathlib.Data.List.Count

/-!
# Accounts of what a history holds

Some exchanges acquire a thing and some give one back. An account keeps the things that are held, the last acquired
first, and fails when a thing is given back that is not held. A history that leaves every account as it was has given
back each thing it acquired exactly once, and nothing else.
-/

set_option autoImplicit false

namespace EfiHandoff

/-- What an exchange does to the things that are held. -/
inductive Effect (R : Type)
  | acquire (thing : R)
  | release (thing : R)
  | idle
deriving DecidableEq

namespace Effect

variable {R S : Type}

def acquired? : Effect R → Option R
  | .acquire thing => some thing
  | _ => none

def released? : Effect R → Option R
  | .release thing => some thing
  | _ => none

/-- The things held after an effect; none if it gives back what is not held. -/
def apply [DecidableEq R] (held : List R) : Effect R → Option (List R)
  | .acquire thing => some (thing :: held)
  | .release thing => if thing ∈ held then some (held.erase thing) else none
  | .idle => some held

theorem apply_release [DecidableEq R] {held after : List R} {thing : R}
    (applied : apply held (.release thing) = some after) : thing ∈ held ∧ after = held.erase thing := by
  by_cases member : thing ∈ held
  · rw [apply, if_pos member] at applied
    exact ⟨member, (Option.some.inj applied).symm⟩
  · rw [apply, if_neg member] at applied
    cases applied

def restrict (view : R → Option S) : Effect R → Effect S
  | .acquire thing => (view thing).elim .idle .acquire
  | .release thing => (view thing).elim .idle .release
  | .idle => .idle

end Effect

/-- What each exchange over an interface does to the things that are held. -/
structure Account (I : Interface) (R : Type) where
  effect : Exchange I → Effect R

namespace Account

variable {I : Interface} {R S : Type}

def restrict (account : Account I R) (view : R → Option S) : Account I S :=
  ⟨fun exchange => (account.effect exchange).restrict view⟩

/-- A history gives back these things in their order and does nothing else. -/
def Returns (account : Account I R) (things : List R) (history : History I) : Prop :=
  history.map account.effect = things.map .release

theorem Returns.append {account : Account I R} {early late : History I} {things more : List R}
    (first : account.Returns things early) (second : account.Returns more late) :
    account.Returns (things ++ more) (early ++ late) := by
  rw [Returns, List.map_append, List.map_append, first, second]

section Held

variable [DecidableEq R] {account : Account I R} {history early late : History I}
  {start middle finish others : List R}

/-- The things held after a history, unless it gives back what is not held. -/
def held (account : Account I R) (start : List R) : History I → Option (List R)
  | [] => some start
  | exchange :: later => ((account.effect exchange).apply start).bind (account.held · later)

theorem held_append :
    account.held start (early ++ late) =
      (account.held start early).bind (account.held · late) := by
  induction early generalizing start with
  | nil => rfl
  | cons exchange early ih =>
      simp only [List.cons_append, held, Option.bind_assoc, ih]

theorem held_singleton (exchange : Exchange I) :
    account.held start [exchange] = (account.effect exchange).apply start :=
  Option.bind_fun_some _

/-- Whatever is given back is held by then. -/
theorem held_release {exchange : Exchange I} {thing : R}
    (kept : account.held start (early ++ exchange :: late) = some finish)
    (released : account.effect exchange = .release thing) :
    ∃ things, account.held start early = some things ∧ thing ∈ things := by
  rw [held_append] at kept
  obtain ⟨things, before, kept⟩ := Option.bind_eq_some_iff.mp kept
  obtain ⟨after, applied, -⟩ := Option.bind_eq_some_iff.mp kept
  rw [released] at applied
  exact ⟨things, before, (Effect.apply_release applied).1⟩

/-- A history turns the things held at its start into those at its finish, whatever else is held. -/
def Moves (account : Account I R) (start : List R) (history : History I) (finish : List R) : Prop :=
  ∀ others, account.held (start ++ others) history = some (finish ++ others)

namespace Moves

variable {exchange : Exchange I} {thing : R}

theorem nil : account.Moves start [] start := fun _ => rfl

theorem acquire (effect : account.effect exchange = .acquire thing)
    (rest : account.Moves (thing :: start) late finish) :
    account.Moves start (exchange :: late) finish := by
  intro others
  rw [held, effect]
  exact rest others

theorem idle (effect : account.effect exchange = .idle) (rest : account.Moves start late finish) :
    account.Moves start (exchange :: late) finish := by
  intro others
  rw [held, effect]
  exact rest others

theorem release (effect : account.effect exchange = .release thing)
    (rest : account.Moves (start.erase thing) late finish) (member : thing ∈ start) :
    account.Moves start (exchange :: late) finish := by
  intro others
  rw [held, effect, Effect.apply, if_pos (List.mem_append_left others member),
    List.erase_append_left others member]
  exact rest others

theorem append (first : account.Moves start early middle) (second : account.Moves middle late finish) :
    account.Moves start (early ++ late) finish := by
  intro others
  rw [held_append, first others]
  exact second others

theorem frame (moves : account.Moves start history finish) (others : List R) :
    account.Moves (start ++ others) history (finish ++ others) := by
  intro more
  rw [List.append_assoc, List.append_assoc]
  exact moves (others ++ more)

end Moves

theorem Returns.moves {things : List R} (returns : account.Returns things history) :
    account.Moves things history [] := by
  induction things generalizing history with
  | nil =>
      cases List.map_eq_nil_iff.mp returns
      exact .nil
  | cons thing things ih =>
      obtain ⟨exchange, later, rfl, effect, rest⟩ := List.map_eq_cons_iff.mp returns
      refine .release effect ?_ List.mem_cons_self
      rw [List.erase_cons_head]
      exact ih rest

theorem held_idle (idle : ∀ exchange ∈ history, account.effect exchange = .idle) :
    account.held start history = some start := by
  induction history with
  | nil => rfl
  | cons exchange later ih =>
      obtain ⟨first, rest⟩ := List.forall_mem_cons.mp idle
      rw [held, first]
      exact ih rest

theorem count_apply {effect : Effect R} {before after : List R} (thing : R)
    (applied : effect.apply before = some after) :
    before.count thing + [effect].countP (·.acquired? = some thing) =
      after.count thing + [effect].countP (·.released? = some thing) := by
  cases effect with
  | idle =>
      cases applied
      rfl
  | acquire other =>
      cases applied
      by_cases same : other = thing <;>
        simp [Effect.acquired?, Effect.released?, same]
  | release other =>
      obtain ⟨member, rfl⟩ := Effect.apply_release applied
      by_cases same : other = thing
      · subst same
        have positive := List.count_pos_iff.mpr member
        simp only [Effect.acquired?, Effect.released?, List.count_erase_self,
          List.countP_singleton, decide_true, ↓reduceIte, reduceCtorEq, decide_false,
          Bool.false_eq_true]
        omega
      · simp [Effect.acquired?, Effect.released?, same, List.count_erase_of_ne (Ne.symm same)]

theorem count_held (thing : R) (kept : account.held start history = some finish) :
    start.count thing + history.countP (fun exchange => (account.effect exchange).acquired? = some thing) =
      finish.count thing +
        history.countP (fun exchange => (account.effect exchange).released? = some thing) := by
  induction history generalizing start with
  | nil =>
      cases kept
      rfl
  | cons exchange later ih =>
      obtain ⟨middle, applied, rest⟩ := Option.bind_eq_some_iff.mp kept
      have first := count_apply thing applied
      have others := ih rest
      simp only [List.countP_singleton] at first
      simp only [List.countP_cons]
      omega

/-- The books of a history are balanced: whatever is held at its start is held at its end and nothing else, and
each thing is given back as often as it is acquired, never before. -/
structure Balances (account : Account I R) (history : History I) : Prop where
  live : ∀ others, account.held others history = some others
  once : ∀ thing, history.countP (fun exchange => (account.effect exchange).acquired? = some thing) =
    history.countP (fun exchange => (account.effect exchange).released? = some thing)
  earlier : ∀ before after, history = before ++ after → ∀ thing,
    before.countP (fun exchange => (account.effect exchange).released? = some thing) ≤
      before.countP (fun exchange => (account.effect exchange).acquired? = some thing)

theorem Moves.balances (moves : account.Moves [] history []) : account.Balances history where
  live := moves
  once thing := by
    have counted := count_held thing (moves [])
    omega
  earlier before after cut thing := by
    have kept := moves []
    rw [cut, held_append] at kept
    obtain ⟨middle, early, -⟩ := Option.bind_eq_some_iff.mp kept
    have counted := count_held thing early
    rw [List.append_nil, List.count_nil] at counted
    omega

end Held

section Restrict

variable [DecidableEq R] {account : Account I R} {view : R → Option S} {history : History I}

theorem filterMap_erase_hidden {thing : R} (hidden : view thing = none) (held : List R) :
    (held.erase thing).filterMap view = held.filterMap view := by
  induction held with
  | nil => rfl
  | cons other held ih =>
      by_cases same : other = thing
      · subst same
        simp [hidden]
      · rw [List.erase_cons_tail (by simpa using same)]
        simp [List.filterMap_cons, ih]

variable [DecidableEq S]

theorem filterMap_erase (apart : ∀ left right shown, view left = some shown → view right = some shown →
    left = right) {thing : R} {shown : S} (shows : view thing = some shown) (held : List R) :
    (held.erase thing).filterMap view = (held.filterMap view).erase shown := by
  induction held with
  | nil => rfl
  | cons other held ih =>
      by_cases same : other = thing
      · subst same
        simp [shows]
      · rw [List.erase_cons_tail (by simpa using same)]
        cases seen : view other with
        | none => simp [seen, ih]
        | some different =>
            have distinct : different ≠ shown := fun equal =>
              same (apart other thing shown (equal ▸ seen) shows)
            rw [List.filterMap_cons_some seen, List.filterMap_cons_some seen,
              List.erase_cons_tail (by simpa using distinct), ih]

/-- An account of some of the things is kept with the account of all of them. -/
theorem held_restrict (apart : ∀ left right shown, view left = some shown → view right = some shown →
    left = right) {start finish : List R} (kept : account.held start history = some finish) :
    (account.restrict view).held (start.filterMap view) history = some (finish.filterMap view) := by
  induction history generalizing start with
  | nil =>
      cases kept
      rfl
  | cons exchange later ih =>
      obtain ⟨middle, applied, rest⟩ := Option.bind_eq_some_iff.mp kept
      refine Option.bind_eq_some_iff.mpr ⟨middle.filterMap view, ?_, ih rest⟩
      change ((account.effect exchange).restrict view).apply _ = _
      generalize account.effect exchange = effect at applied ⊢
      cases effect with
      | idle =>
          cases applied
          rfl
      | acquire thing =>
          cases applied
          cases seen : view thing <;>
            simp [Effect.restrict, Effect.apply, seen]
      | release thing =>
          obtain ⟨member, rfl⟩ := Effect.apply_release applied
          cases seen : view thing with
          | none => simp [Effect.restrict, Effect.apply, seen, filterMap_erase_hidden seen]
          | some shown =>
              have found : shown ∈ start.filterMap view :=
                List.mem_filterMap.mpr ⟨thing, member, seen⟩
              simp [Effect.restrict, Effect.apply, seen, found, -List.mem_filterMap,
                filterMap_erase apart seen]

theorem Moves.restrict (apart : ∀ left right shown, view left = some shown → view right = some shown →
    left = right) {of : S → R} (shows : ∀ shown, view (of shown) = some shown) {start finish : List R}
    (moves : account.Moves start history finish) :
    (account.restrict view).Moves (start.filterMap view) history (finish.filterMap view) := by
  intro others
  -- whatever else is held under the view is shown by something held under the account
  have back : (others.map of).filterMap view = others := by
    have shown : view ∘ of = some := funext shows
    rw [List.filterMap_map, shown, List.filterMap_some]
  have kept := held_restrict apart (moves (others.map of))
  rwa [List.filterMap_append, List.filterMap_append, back] at kept

end Restrict

end Account

end EfiHandoff
