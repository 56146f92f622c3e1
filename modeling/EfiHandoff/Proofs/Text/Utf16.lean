import EfiHandoff.Text.Utf16

/-!
# UTF-16 there and back

Decoding undoes encoding, reading bytes as units undoes writing them, and a text ends at its first NUL in either
form.
-/

set_option autoImplicit false

namespace EfiHandoff.Utf16

section Bytes

theorem length_toBytes (units : List UInt16) : (toBytes units).length = 2 * units.length := by
  simp [toBytes, List.map_const', Nat.mul_comm]

theorem unit_eq (low high : UInt8) :
    low.toUInt16 ||| (high.toUInt16 <<< 8) = UInt16.ofNat (low.toNat + 256 * high.toNat) := by
  apply UInt16.toNat_inj.mp
  have lowBound := low.toNat_lt
  have highBound := high.toNat_lt
  have shifted : (high.toUInt16 <<< 8).toNat = high.toNat <<< 8 := by
    simp only [UInt16.toNat_shiftLeft, UInt8.toNat_toUInt16, UInt16.reduceToNat, Nat.reduceMod, Nat.shiftLeft_eq]
    omega
  rw [UInt16.toNat_or, UInt8.toNat_toUInt16, shifted, Nat.or_comm, ← Nat.shiftLeft_add_eq_or_of_lt lowBound,
    Nat.shiftLeft_eq, UInt16.toNat_ofNat_of_lt' (by unfold UInt16.size; omega)]
  omega

theorem unit_of_bytes (unit : UInt16) :
    unit.toUInt8.toUInt16 ||| ((unit >>> 8).toUInt8.toUInt16 <<< 8) = unit := by
  have bytes : unit.toUInt8.toNat + 256 * (unit >>> 8).toUInt8.toNat = unit.toNat := by
    have bound := unit.toNat_lt
    simp [Nat.shiftRight_eq_div_pow]
    omega
  rw [unit_eq, bytes, UInt16.ofNat_toNat]

theorem ofBytes_toBytes (units : List UInt16) : ofBytes (toBytes units) = units := by
  induction units with
  | nil => rfl
  | cons unit units ih =>
      change (unit.toUInt8.toUInt16 ||| ((unit >>> 8).toUInt8.toUInt16 <<< 8)) ::
        ofBytes (toBytes units) = unit :: units
      rw [unit_of_bytes, ih]

end Bytes

section Characters

theorem isHighSurrogate_iff {unit : UInt16} :
    isHighSurrogate unit = true ↔ 0xd800 ≤ unit.toNat ∧ unit.toNat < 0xdc00 := by
  simp [isHighSurrogate, UInt16.le_iff_toNat_le, UInt16.lt_iff_toNat_lt]

theorem isLowSurrogate_iff {unit : UInt16} :
    isLowSurrogate unit = true ↔ 0xdc00 ≤ unit.toNat ∧ unit.toNat < 0xe000 := by
  simp [isLowSurrogate, UInt16.le_iff_toNat_le, UInt16.lt_iff_toNat_lt]

/-- The units that stand for a character: one that is no surrogate, or a surrogate pair. -/
inductive Encodes (char : Char) : List UInt16 → Prop where
  | one {unit : UInt16} (same : unit.toNat = char.toNat) (basic : isHighSurrogate unit = false)
      (alone : isLowSurrogate unit = false) : Encodes char [unit]
  | two {high low : UInt16} (first : isHighSurrogate high = true) (second : isLowSurrogate low = true)
      (combined : combine high low = char) : Encodes char [high, low]

theorem encodeChar_encodes (char : Char) : Encodes char (encodeChar char) := by
  have valid : char.toNat < 0xd800 ∨ 0xdfff < char.toNat ∧ char.toNat < 0x110000 := char.valid
  unfold encodeChar
  dsimp only
  split
  · next basic =>
      have same : (UInt16.ofNat char.toNat).toNat = char.toNat :=
        UInt16.toNat_ofNat_of_lt' basic
      refine .one same ?_ ?_
      · rw [Bool.eq_false_iff, ne_eq, isHighSurrogate_iff]
        omega
      · rw [Bool.eq_false_iff, ne_eq, isLowSurrogate_iff]
        omega
  · next beyond =>
      have first : (UInt16.ofNat (0xd800 + (char.toNat - 0x10000) / 0x400)).toNat =
          0xd800 + (char.toNat - 0x10000) / 0x400 := UInt16.toNat_ofNat_of_lt' (by simp only [UInt16.size]; omega)
      have second : (UInt16.ofNat (0xdc00 + (char.toNat - 0x10000) % 0x400)).toNat =
          0xdc00 + (char.toNat - 0x10000) % 0x400 := UInt16.toNat_ofNat_of_lt' (by simp only [UInt16.size]; omega)
      refine .two ?_ ?_ ?_
      · rw [isHighSurrogate_iff, first]
        omega
      · rw [isLowSurrogate_iff, second]
        omega
      · have sum : 0x10000 + (0xd800 + (char.toNat - 0x10000) / 0x400 - 0xd800) * 0x400 +
            (0xdc00 + (char.toNat - 0x10000) % 0x400 - 0xdc00) = char.toNat := by omega
        rw [combine, first, second, sum, Char.ofNat_toNat]

theorem decode_encodeChar (char : Char) (rest : List UInt16) :
    decode (encodeChar char ++ rest) = char :: decode rest := by
  have encodes := encodeChar_encodes char
  generalize encodeChar char = units at encodes
  cases encodes with
  | @one unit same basic alone =>
      change decode (unit :: rest) = _
      rw [decode.eq_def]
      dsimp only
      rw [if_neg (Bool.eq_false_iff.mp basic), if_neg (Bool.eq_false_iff.mp alone), same, Char.ofNat_toNat]
  | @two high low first second combined =>
      change decode (high :: low :: rest) = _
      rw [decode.eq_def]
      dsimp only
      rw [if_pos first, if_pos second, combined]

theorem decode_encode (text : List Char) : decode (encode text) = text := by
  induction text with
  | nil => rfl
  | cons char text ih => rw [encode, List.flatMap_cons, decode_encodeChar, ← encode, ih]

theorem encode_append (first second : List Char) : encode (first ++ second) = encode first ++ encode second :=
  List.flatMap_append

/-- A unit below the surrogates stands for its own character only. -/
theorem encodeChar_ne {char other : Char} {unit : UInt16} (code : unit.toNat = other.toNat)
    (below : unit.toNat < 0xd800) (different : char ≠ other) : ∀ found ∈ encodeChar char, found ≠ unit := by
  have encodes := encodeChar_encodes char
  generalize encodeChar char = units at encodes
  cases encodes with
  | one same basic alone =>
      intro found member equal
      obtain rfl := List.mem_singleton.mp member
      rw [equal, code] at same
      exact different (Char.toNat_inj.mp same.symm)
  | two first second combined =>
      rw [isHighSurrogate_iff] at first
      rw [isLowSurrogate_iff] at second
      intro found member equal
      rw [equal] at member
      simp only [List.mem_cons, List.not_mem_nil, or_false] at member
      rcases member with rfl | rfl
      · exact absurd first.1 (Nat.not_le.mpr below)
      · exact absurd second.1 (by omega)

theorem untilNul_encode (text : List Char) (rest : List UInt16) :
    untilNul (encode text ++ 0 :: rest) = encode (text.takeWhile (· ≠ '\x00')) := by
  induction text with
  | nil => rfl
  | cons char text ih =>
      by_cases nul : char = '\x00'
      · subst nul
        rfl
      · have kept : (char :: text).takeWhile (· ≠ '\x00') = char :: text.takeWhile (· ≠ '\x00') :=
          List.takeWhile_cons_of_pos (decide_eq_true nul)
        have units : ∀ unit ∈ encodeChar char, unit ≠ 0 := encodeChar_ne rfl (by decide) nul
        rw [kept, encode, List.flatMap_cons, List.append_assoc, untilNul,
          List.takeWhile_append_of_pos fun unit member => decide_eq_true (units unit member), encode,
          List.flatMap_cons]
        exact congrArg (encodeChar char ++ ·) ih

end Characters

end EfiHandoff.Utf16
