import EfiHandoff.Buffer
import EfiHandoff.Text.Blank
import EfiHandoff.Text.Number
import Mathlib.Data.List.Forall2
import Mathlib.Data.List.TakeWhile
import Mathlib.Data.Nat.Digits.Defs

/-!
# Words and numerals

What trimming leaves of a text, and which texts are read as numbers: a numeral in positional notation, with or
without a plus sign, whose value is below the limit.
-/

set_option autoImplicit false

namespace EfiHandoff.Text

section Trimming

/-- `word` is a text without the white space at its two ends. -/
structure Trimmed (text word : List Char) : Prop where
  around : ∃ before after, text = before ++ word ++ after ∧
    (∀ char ∈ before, isBlank char = true) ∧ ∀ char ∈ after, isBlank char = true
  first : ∀ char ∈ word.head?, isBlank char = false
  last : ∀ char ∈ word.getLast?, isBlank char = false

/-- What is dropped fails nowhere, and what stays fails at its first place. -/
theorem dropWhile_eq_iff {α : Type} {drops : α → Bool} {items rest : List α} :
    items.dropWhile drops = rest ↔
      (∃ dropped, items = dropped ++ rest ∧ ∀ item ∈ dropped, drops item = true) ∧
        ∀ item ∈ rest.head?, drops item = false := by
  constructor
  · rintro rfl
    refine ⟨⟨items.takeWhile drops, List.takeWhile_append_dropWhile.symm, fun item member =>
      List.mem_takeWhile_imp member⟩, ?_⟩
    intro item first
    have stopped := List.head?_dropWhile_not drops items
    rwa [Option.mem_def.mp first] at stopped
  · rintro ⟨⟨dropped, rfl, dropsAll⟩, stopped⟩
    rw [List.dropWhile_append_of_pos dropsAll]
    cases rest with
    | nil => rfl
    | cons item rest => exact List.dropWhile_cons_of_neg (Bool.eq_false_iff.mp (stopped item rfl))

theorem trim_eq_iff {text word : List Char} : trim text = word ↔ Trimmed text word := by
  have fromBehind : trim text = word ↔ (text.dropWhile isBlank).reverse.dropWhile isBlank = word.reverse := by
    rw [trim, List.reverse_eq_iff]
  rw [fromBehind, dropWhile_eq_iff]
  constructor
  · rintro ⟨⟨after, cut, afterBlank⟩, last⟩
    rw [List.reverse_eq_iff, List.reverse_append, List.reverse_reverse] at cut
    obtain ⟨⟨before, whole, beforeBlank⟩, first⟩ := dropWhile_eq_iff.mp cut
    refine ⟨⟨before, after.reverse, ?_, beforeBlank, ?_⟩, ?_, ?_⟩
    · rw [whole, List.append_assoc]
    · exact fun char member => afterBlank char (List.mem_reverse.mp member)
    · intro char head
      refine first char ?_
      rw [List.head?_append, Option.mem_def.mp head]
      rfl
    · rwa [List.head?_reverse] at last
  · rintro ⟨⟨before, after, rfl, beforeBlank, afterBlank⟩, first, last⟩
    refine ⟨?_, by rwa [List.head?_reverse]⟩
    by_cases empty : word = []
    · have blank : ∀ char ∈ before ++ word ++ after, isBlank char = true := by
        intro char member
        rw [empty, List.append_nil, List.mem_append] at member
        exact member.elim (beforeBlank char) (afterBlank char)
      refine ⟨[], ?_, fun char member => absurd member List.not_mem_nil⟩
      rw [List.dropWhile_eq_nil_iff.mpr blank, empty]
      rfl
    · have cut : (before ++ word ++ after).dropWhile isBlank = word ++ after := by
        refine dropWhile_eq_iff.mpr ⟨⟨before, List.append_assoc .., beforeBlank⟩, ?_⟩
        obtain ⟨char, rest, rfl⟩ := List.exists_cons_of_ne_nil empty
        exact first
      refine ⟨after.reverse, ?_, fun char member => afterBlank char (List.mem_reverse.mp member)⟩
      rw [cut, List.reverse_append]

end Trimming

section Numerals

/-- What a character stands for as a digit: figures come first, then the letters in either case. -/
inductive IsDigit (char : Char) : Nat → Prop where
  | figure {rank : Nat} (bound : rank < 10) (code : char.toNat = '0'.toNat + rank) : IsDigit char rank
  | lower {rank : Nat} (bound : rank < 26) (code : char.toNat = 'a'.toNat + rank) : IsDigit char (10 + rank)
  | upper {rank : Nat} (bound : rank < 26) (code : char.toNat = 'A'.toNat + rank) : IsDigit char (10 + rank)

/-- A text is the numeral of a value in a base: one digit or more, the most significant one first. -/
def Numeral (base : Nat) (text : List Char) (value : Nat) : Prop :=
  text ≠ [] ∧ ∃ digits : List Nat,
    List.Forall₂ (fun char digit => IsDigit char digit ∧ digit < base) text digits ∧
      value = Nat.ofDigits base digits.reverse

def Unsigned (base : Nat) (text : List Char) (value : Nat) : Prop :=
  ∃ numeral, (text = numeral ∨ text = '+' :: numeral) ∧ Numeral base numeral value

variable {base limit value : Nat}

theorem digitValue?_eq_some_iff {char : Char} {digit : Nat} :
    digitValue? base char = some digit ↔ IsDigit char digit ∧ digit < base := by
  have le_iff (one other : Char) : one ≤ other ↔ one.toNat ≤ other.toNat := UInt32.le_iff_toNat_le
  have figures : '0'.toNat = 48 ∧ '9'.toNat = 57 := by decide
  have lowers : 'a'.toNat = 97 ∧ 'z'.toNat = 122 := by decide
  have uppers : 'A'.toNat = 65 ∧ 'Z'.toNat = 90 := by decide
  rw [digitValue?, Option.filter_eq_some_iff, decide_eq_true_iff]
  refine and_congr_left fun _ => ?_
  simp only [le_iff, figures, lowers, uppers]
  constructor
  · intro read
    split at read
    · obtain rfl := Option.some.inj read
      exact .figure (by omega) (by omega)
    · split at read
      · obtain rfl := Option.some.inj read
        rw [Nat.add_comm]
        exact .lower (by omega) (by omega)
      · split at read
        · obtain rfl := Option.some.inj read
          rw [Nat.add_comm]
          exact .upper (by omega) (by omega)
        · cases read
  · rintro (⟨bound, code⟩ | ⟨bound, code⟩ | ⟨bound, code⟩)
    · rw [if_pos (by omega)]
      exact congrArg some (by omega)
    · rw [if_neg (by omega), if_pos (by omega)]
      exact congrArg some (by omega)
    · rw [if_neg (by omega), if_neg (by omega), if_pos (by omega)]
      exact congrArg some (by omega)

/-- Digits are read behind `before`, and only the last value has to be below the limit: no earlier one is
greater. -/
theorem readDigits?_eq_some_iff {text : List Char} {before : Nat} :
    readDigits? base limit before text = some value ↔
      (∃ digits : List Nat,
        List.Forall₂ (fun char digit => IsDigit char digit ∧ digit < base) text digits ∧
          value = before * base ^ digits.length + Nat.ofDigits base digits.reverse) ∧
        (text ≠ [] → value < limit) := by
  induction text generalizing before with
  | nil => simp [readDigits?, eq_comm]
  | cons char rest ih =>
      have shifted (digit : Nat) (digits : List Nat) :
          (base * before + digit) * base ^ digits.length + Nat.ofDigits base digits.reverse =
            before * base ^ (digit :: digits).length + Nat.ofDigits base (digit :: digits).reverse := by
        rw [List.reverse_cons, Nat.ofDigits_append, Nat.ofDigits_singleton, List.length_reverse,
          List.length_cons, pow_succ]
        ring
      simp only [readDigits?, Option.bind_eq_bind, Option.bind_eq_some_iff, digitValue?_eq_some_iff]
      constructor
      · rintro ⟨digit, isDigit, read⟩
        split at read
        · next below =>
            obtain ⟨⟨digits, areDigits, rfl⟩, bounded⟩ := ih.mp read
            refine ⟨⟨digit :: digits, .cons isDigit areDigits, shifted digit digits⟩, fun _ => ?_⟩
            cases areDigits with
            | nil => simpa using below
            | cons => exact bounded (List.cons_ne_nil _ _)
        · cases read
      · rintro ⟨⟨_, _ | ⟨isDigit, areDigits⟩, rfl⟩, bounded⟩
        rename_i digit digits
        have below := bounded (List.cons_ne_nil char rest)
        have grows : base * before + digit ≤ (base * before + digit) * base ^ digits.length :=
          Nat.le_mul_of_pos_right _ (Nat.pow_pos (Nat.zero_lt_of_lt isDigit.2))
        have sum := shifted digit digits
        refine ⟨digit, isDigit, ?_⟩
        rw [if_pos (by omega)]
        exact ih.mpr ⟨⟨digits, areDigits, sum.symm⟩, fun _ => below⟩

theorem plus_not_numeral {text : List Char} : ¬Numeral base ('+' :: text) value := by
  rintro ⟨-, -, _ | ⟨⟨digit, -⟩, -⟩, -⟩
  have codes : '+'.toNat = 43 ∧ '0'.toNat = 48 ∧ 'a'.toNat = 97 ∧ 'A'.toNat = 65 := by decide
  cases digit <;> omega

/-- What is read as a number is a numeral with a value below the limit, and every such numeral is. -/
theorem readUnsigned?_eq_some_iff {text : List Char} :
    readUnsigned? base limit text = some value ↔ Unsigned base text value ∧ value < limit := by
  have numerals (digits : List Char) :
      (if digits.isEmpty then none else readDigits? base limit 0 digits) = some value ↔
        Numeral base digits value ∧ value < limit := by
    cases digits with
    | nil => simp [Numeral]
    | cons char rest => simp [readDigits?_eq_some_iff, Numeral]
  unfold readUnsigned?
  dsimp only
  split
  · next rest =>
      rw [numerals]
      refine and_congr_left fun _ => ⟨fun numeral => ⟨rest, .inr rfl, numeral⟩, ?_⟩
      rintro ⟨numeral, rfl | plus, isNumeral⟩
      · exact absurd isNumeral plus_not_numeral
      · exact (List.cons.inj plus).2 ▸ isNumeral
  · next noPlus =>
      rw [numerals]
      refine and_congr_left fun _ => ⟨fun numeral => ⟨text, .inl rfl, numeral⟩, ?_⟩
      rintro ⟨numeral, rfl | plus, isNumeral⟩
      · exact isNumeral
      · exact absurd plus (noPlus numeral)

end Numerals

end EfiHandoff.Text
