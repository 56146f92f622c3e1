import EfiHandoff.Fault

/-!
# Conditions in order

A reader that checks one condition after another succeeds exactly when all of them hold, and fails otherwise with the
fault of the first that does not. A judgement with one rule for each condition says that a reader is of this kind.
-/

set_option autoImplicit false

namespace EfiHandoff

/-- What has to hold, and the fault and the error if it does not. -/
structure Condition (φ : Type) where
  holds : Prop
  fault : φ
  error : BootError

variable {φ ψ α : Type}

inductive FirstFailed : List (Condition φ) → Condition φ → Prop where
  | here {condition : Condition φ} {rest : List (Condition φ)} (fails : ¬ condition.holds) :
      FirstFailed (condition :: rest) condition
  | later {condition failed : Condition φ} {rest : List (Condition φ)} (holds : condition.holds)
      (first : FirstFailed rest failed) : FirstFailed (condition :: rest) failed

theorem FirstFailed.mem {conditions : List (Condition φ)} {failed : Condition φ}
    (first : FirstFailed conditions failed) : failed ∈ conditions := by
  induction first with
  | here => exact List.mem_cons_self
  | later _ _ ih => exact List.mem_cons_of_mem _ ih

/-- A reading stops at the first condition that does not hold, and ends with `value` if all of them do. -/
def GoesThrough (value : α) : List (Condition φ) → Except φ α → Prop
  | [], reading => reading = .ok value
  | condition :: rest, reading =>
      (condition.holds → GoesThrough value rest reading) ∧ (¬ condition.holds → reading = .error condition.fault)

theorem allHold_or_firstFailed (conditions : List (Condition φ)) :
    (∀ condition ∈ conditions, condition.holds) ∨ ∃ failed, FirstFailed conditions failed := by
  induction conditions with
  | nil => exact .inl (List.forall_mem_nil _)
  | cons condition rest ih =>
      by_cases holds : condition.holds
      · rcases ih with all | ⟨failed, first⟩
        · exact .inl (List.forall_mem_cons.mpr ⟨holds, all⟩)
        · exact .inr ⟨failed, .later holds first⟩
      · exact .inr ⟨condition, .here holds⟩

namespace GoesThrough

variable {value : α} {conditions : List (Condition φ)} {reading : Except φ α}

theorem accepted (through : GoesThrough value conditions reading)
    (all : ∀ condition ∈ conditions, condition.holds) : reading = .ok value := by
  induction conditions with
  | nil => exact through
  | cons condition rest ih =>
      obtain ⟨holds, others⟩ := List.forall_mem_cons.mp all
      exact ih (through.1 holds) others

theorem refused {failed : Condition φ} (through : GoesThrough value conditions reading)
    (first : FirstFailed conditions failed) : reading = .error failed.fault := by
  induction first with
  | here fails => exact through.2 fails
  | later holds _ ih => exact ih (through.1 holds)

theorem eq_ok_iff {result : α} (through : GoesThrough value conditions reading) :
    reading = .ok result ↔ (∀ condition ∈ conditions, condition.holds) ∧ result = value := by
  constructor
  · intro read
    rcases allHold_or_firstFailed conditions with all | ⟨failed, first⟩
    · rw [through.accepted all] at read
      exact ⟨all, (Except.ok.inj read).symm⟩
    · rw [through.refused first] at read
      cases read
  · intro assumed
    obtain ⟨all, rfl⟩ := assumed
    exact through.accepted all

theorem eq_error_iff {fault : φ} (through : GoesThrough value conditions reading) :
    reading = .error fault ↔ ∃ failed, FirstFailed conditions failed ∧ failed.fault = fault := by
  constructor
  · intro read
    rcases allHold_or_firstFailed conditions with all | ⟨failed, first⟩
    · rw [through.accepted all] at read
      cases read
    · rw [through.refused first] at read
      exact ⟨failed, first, Except.error.inj read⟩
  · intro assumed
    obtain ⟨failed, first, rfl⟩ := assumed
    exact through.refused first

theorem unique {other : Except φ α} (through : GoesThrough value conditions reading)
    (alike : GoesThrough value conditions other) : reading = other := by
  rcases allHold_or_firstFailed conditions with all | ⟨failed, first⟩
  · rw [through.accepted all, alike.accepted all]
  · rw [through.refused first, alike.refused first]

section Rules

variable {β : Type} {check : Except φ β} {next : β → Except φ α} {found : β}

theorem step {condition : Condition φ} (passes : condition.holds → check = .ok found)
    (stops : ¬ condition.holds → check = .error condition.fault)
    (rest : condition.holds → GoesThrough value conditions (next found)) :
    GoesThrough value (condition :: conditions) (check >>= next) := by
  refine ⟨fun holds => ?_, fun fails => ?_⟩
  · rw [passes holds]
    exact rest holds
  · rw [stops fails]
    rfl

theorem decided {condition : Condition φ} {checked : Bool → Except φ β} {holds : Bool}
    (same : holds = true ↔ condition.holds) (passes : checked true = .ok found)
    (stops : checked false = .error condition.fault)
    (rest : condition.holds → GoesThrough value conditions (next found)) :
    GoesThrough value (condition :: conditions) (checked holds >>= next) := by
  refine .step (fun right => ?_) (fun wrong => ?_) rest
  · rw [same.mpr right, passes]
  · rw [Bool.eq_false_iff.mpr (mt same.mp wrong), stops]

theorem pass (passes : check = .ok found) (rest : GoesThrough value conditions (next found)) :
    GoesThrough value conditions (check >>= next) := by
  rw [passes]
  exact rest

end Rules

end GoesThrough

def Condition.rename (rename : φ → ψ) (condition : Condition φ) : Condition ψ :=
  ⟨condition.holds, rename condition.fault, condition.error⟩

theorem GoesThrough.mapError {value : α} {conditions : List (Condition φ)} {reading : Except φ α}
    (through : GoesThrough value conditions reading) (rename : φ → ψ) :
    GoesThrough value (conditions.map (Condition.rename rename)) (reading.mapError rename) := by
  induction conditions with
  | nil =>
      obtain rfl : reading = .ok value := through
      rfl
  | cons condition rest ih =>
      refine ⟨fun holds => ih (through.1 holds), fun fails => ?_⟩
      rw [through.2 fails]
      rfl

end EfiHandoff
