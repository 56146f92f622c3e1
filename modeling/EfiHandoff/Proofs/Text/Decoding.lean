import EfiHandoff.Proofs.Text.Utf16

/-!
# What units decode to

Units are read character by character: where a character is written it is read, and a unit with which none begins is an
unpaired surrogate. This says what decoding gives without following how it looks ahead.
-/

set_option autoImplicit false

namespace EfiHandoff.Utf16

/-- The text that is read from units. -/
inductive Decodes : List UInt16 → List Char → Prop where
  | nil : Decodes [] []
  | char {char : Char} {rest : List UInt16} {text : List Char} (read : Decodes rest text) :
      Decodes (encodeChar char ++ rest) (char :: text)
  | unpaired {unit : UInt16} {rest : List UInt16} {text : List Char}
      (alone : ∀ char later, unit :: rest ≠ encodeChar char ++ later) (read : Decodes rest text) :
      Decodes (unit :: rest) ('\uFFFD' :: text)

section Written

variable {unit high low : UInt16} {rest : List UInt16} {text : List Char}

theorem not_high_and_low (first : isHighSurrogate unit = true) (second : isLowSurrogate unit = true) : False := by
  rw [isHighSurrogate_iff] at first
  rw [isLowSurrogate_iff] at second
  omega

theorem toNat_of_valid {code : Nat} (valid : code.isValidChar) : (Char.ofNat code).toNat = code := by
  unfold Char.ofNat
  rw [dif_pos valid]
  rfl

theorem encodeChar_ofNat (basic : isHighSurrogate unit = false) (alone : isLowSurrogate unit = false) :
    encodeChar (Char.ofNat unit.toNat) = [unit] := by
  have bound := unit.toNat_lt
  rw [Bool.eq_false_iff, ne_eq, isHighSurrogate_iff] at basic
  rw [Bool.eq_false_iff, ne_eq, isLowSurrogate_iff] at alone
  have valid : unit.toNat.isValidChar := by
    unfold Nat.isValidChar
    omega
  rw [encodeChar, toNat_of_valid valid, if_pos bound, UInt16.ofNat_toNat]

theorem encodeChar_combine (first : isHighSurrogate high = true) (second : isLowSurrogate low = true) :
    encodeChar (combine high low) = [high, low] := by
  rw [isHighSurrogate_iff] at first
  rw [isLowSurrogate_iff] at second
  have valid : (0x10000 + (high.toNat - 0xd800) * 0x400 + (low.toNat - 0xdc00)).isValidChar := by
    unfold Nat.isValidChar
    omega
  have upper : 0xd800 + (0x10000 + (high.toNat - 0xd800) * 0x400 + (low.toNat - 0xdc00) - 0x10000) / 0x400 =
      high.toNat := by omega
  have lower : 0xdc00 + (0x10000 + (high.toNat - 0xd800) * 0x400 + (low.toNat - 0xdc00) - 0x10000) % 0x400 =
      low.toNat := by omega
  have beyond : ¬ 0x10000 + (high.toNat - 0xd800) * 0x400 + (low.toNat - 0xdc00) < 0x10000 := by omega
  rw [encodeChar, combine, toNat_of_valid valid, if_neg beyond]
  dsimp only
  rw [upper, lower, UInt16.ofNat_toNat, UInt16.ofNat_toNat]

/-- No character begins with a low surrogate. -/
theorem low_alone (second : isLowSurrogate unit = true) (char : Char) (later : List UInt16) :
    unit :: rest ≠ encodeChar char ++ later := by
  intro same
  have encodes := encodeChar_encodes char
  generalize encodeChar char = units at encodes same
  cases encodes with
  | one _ _ alone =>
      obtain ⟨rfl, -⟩ := List.cons.inj same
      exact absurd second (Bool.eq_false_iff.mp alone)
  | two first =>
      obtain ⟨rfl, -⟩ := List.cons.inj same
      exact not_high_and_low first second

/-- A character that begins with a high surrogate goes on with a low one. -/
theorem high_alone (first : isHighSurrogate unit = true)
    (next : ∀ low ∈ rest.head?, isLowSurrogate low = false) (char : Char) (later : List UInt16) :
    unit :: rest ≠ encodeChar char ++ later := by
  intro same
  have encodes := encodeChar_encodes char
  generalize encodeChar char = units at encodes same
  cases encodes with
  | one _ basic =>
      obtain ⟨rfl, -⟩ := List.cons.inj same
      exact absurd first (Bool.eq_false_iff.mp basic)
  | two _ second =>
      obtain ⟨-, rfl⟩ := List.cons.inj same
      exact absurd second (Bool.eq_false_iff.mp (next _ rfl))

theorem decode_decodes (units : List UInt16) : Decodes units (decode units) := by
  fun_induction decode units with
  | case1 => exact .nil
  | case2 unit first => exact .unpaired (high_alone first (by simp)) .nil
  | case3 unit first next rest second ih =>
      have read : Decodes (encodeChar (combine unit next) ++ rest) (combine unit next :: decode rest) := .char ih
      rwa [encodeChar_combine first second] at read
  | case4 unit first next rest alone ih => exact .unpaired (high_alone first (by simpa using alone)) ih
  | case5 unit rest basic second ih => exact .unpaired (low_alone second) ih
  | case6 unit rest basic alone ih =>
      have read : Decodes (encodeChar (Char.ofNat unit.toNat) ++ rest) (Char.ofNat unit.toNat :: decode rest) :=
        .char ih
      rwa [encodeChar_ofNat (Bool.eq_false_iff.mpr basic) (Bool.eq_false_iff.mpr alone)] at read

theorem decode_unpaired (alone : ∀ char later, unit :: rest ≠ encodeChar char ++ later) :
    decode (unit :: rest) = replacement :: decode rest := by
  rw [decode.eq_def]
  dsimp only
  by_cases first : isHighSurrogate unit
  · rw [if_pos first]
    cases rest with
    | nil => rfl
    | cons next rest =>
        have single : ¬ isLowSurrogate next = true := by
          intro second
          refine alone (combine unit next) rest ?_
          rw [encodeChar_combine first second]
          rfl
        exact if_neg single
  · rw [if_neg first]
    by_cases second : isLowSurrogate unit
    · exact if_pos second
    · refine absurd ?_ (alone (Char.ofNat unit.toNat) rest)
      rw [encodeChar_ofNat (Bool.eq_false_iff.mpr first) (Bool.eq_false_iff.mpr second)]
      rfl

/-- Decoding reads what is written in the units, and nothing else can be read from them. -/
theorem decode_eq_iff {units : List UInt16} : decode units = text ↔ Decodes units text := by
  constructor
  · rintro rfl
    exact decode_decodes units
  · intro read
    induction read with
    | nil => rfl
    | char _ ih => rw [decode_encodeChar, ih]
    | unpaired alone _ ih =>
        rw [decode_unpaired alone, ih]
        rfl

end Written

end EfiHandoff.Utf16
