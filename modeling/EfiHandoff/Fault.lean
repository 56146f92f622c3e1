import EfiHandoff.Error
import EfiHandoff.Journal

/-!
# Faults

A check inside the loader fails with a fault of its own type that keeps every detail. This class says what a
fault means to the user and what is reported when it arises, so the checks themselves stay pure.
-/

set_option autoImplicit false

namespace EfiHandoff

/-- A detailed cause, with the error it stands for and the entries written when it arises. -/
class Fault (φ : Type) where
  error : φ → BootError
  journal : φ → Journal

namespace Fault

def reported {φ α : Type} [Fault φ] : Except φ α → Journal
  | .ok _ => []
  | .error fault => journal fault

/-- A checked result with the error its fault stands for. -/
def simplify {φ α : Type} [Fault φ] : Except φ α → Except BootError α
  | .ok value => .ok value
  | .error fault => .error (error fault)

variable {φ α : Type} [Fault φ] {checked : Except φ α}

theorem simplify_eq_ok_iff {value : α} : simplify checked = .ok value ↔ checked = .ok value := by
  cases checked with
  | ok => simp only [simplify, Except.ok.injEq]
  | error => simp only [simplify, reduceCtorEq]

theorem simplify_eq_error_iff {why : BootError} :
    simplify checked = .error why ↔ ∃ fault, checked = .error fault ∧ error fault = why := by
  cases checked with
  | ok => simp only [simplify, reduceCtorEq, false_and, exists_false]
  | error => simp only [simplify, Except.error.injEq, exists_eq_left']

end Fault

end EfiHandoff
