import EfiHandoff.Buffer
import Mathlib.Tactic.Ring

/-!
# Bytes that change and bytes that stay

Little-endian words read back what was written, up to the width that was written, and a write changes nothing
outside the bytes it covers.
-/

set_option autoImplicit false

namespace EfiHandoff

namespace Bytes

/-- What does not fit into the width is lost. -/
theorem littleEndian_ofNat (width value : Nat) :
    littleEndian (ofNat width value) = value % 256 ^ width := by
  induction width generalizing value with
  | zero => simp only [ofNat, littleEndian, pow_zero, Nat.mod_one]
  | succ width ih =>
      have lowest : (UInt8.ofNat value).toNat = value % 256 := UInt8.toNat_ofNat'
      rw [ofNat, littleEndian, ih, lowest, pow_succ' 256 width, Nat.mod_mul]

theorem ofNat_mod (width value : Nat) : ofNat width (value % 256 ^ width) = ofNat width value := by
  induction width generalizing value with
  | zero => rfl
  | succ width ih =>
      have lowest : UInt8.ofNat (value % 256 ^ (width + 1)) = UInt8.ofNat value := by
        rw [← UInt8.toNat_inj, UInt8.toNat_ofNat', UInt8.toNat_ofNat', pow_succ' 256 width]
        exact Nat.mod_mul_right_mod value 256 (256 ^ width)
      have others : value % 256 ^ (width + 1) / 256 = value / 256 % 256 ^ width := by
        rw [pow_succ' 256 width, Nat.mod_mul_right_div_self]
      rw [ofNat, lowest, others, ih, ofNat]

end Bytes

namespace Buffer

theorem overwrite_frame {buffer : Buffer} {start index : Nat} {bytes : Bytes}
    (outside : index < start ∨ start + bytes.length ≤ index) :
    (overwrite buffer start bytes)[index]? = buffer[index]? := by
  induction bytes generalizing buffer start with
  | nil => rfl
  | cons byte rest ih =>
      simp only [List.length_cons] at outside
      rw [overwrite, ih (by omega)]
      exact Array.getElem?_setIfInBounds_ne (by omega)

theorem overwrite_covered {buffer : Buffer} {start lane : Nat} {bytes : Bytes}
    (room : start + bytes.length ≤ buffer.size) (bound : lane < bytes.length) :
    (overwrite buffer start bytes)[start + lane]? = bytes[lane]? := by
  induction bytes generalizing buffer start lane with
  | nil => simp only [List.length_nil, Nat.not_lt_zero] at bound
  | cons byte rest ih =>
      simp only [List.length_cons] at room bound
      rw [overwrite]
      cases lane with
      | zero =>
          rw [overwrite_frame (Or.inl (by omega))]
          simp only [Nat.add_zero, List.getElem?_cons_zero]
          exact Array.getElem?_setIfInBounds_self_of_lt (by omega)
      | succ lane =>
          have shifted : (overwrite (buffer.setIfInBounds start byte) (start + 1) rest)[start + 1 + lane]? =
              rest[lane]? := ih (by simp only [Array.size_setIfInBounds]; omega) (by omega)
          simpa only [Nat.add_assoc, Nat.add_comm 1 lane, List.getElem?_cons_succ] using shifted

/-- A second write over the same run is all that is left. -/
theorem overwrite_overwrite {buffer : Buffer} {start : Nat} {first second : Bytes}
    (same : first.length = second.length) (room : start + second.length ≤ buffer.size) :
    (buffer.overwrite start first).overwrite start second = buffer.overwrite start second := by
  refine Array.ext_getElem? fun index => ?_
  by_cases covered : start ≤ index ∧ index < start + second.length
  · obtain ⟨lane, rfl⟩ := Nat.exists_eq_add_of_le covered.1
    rw [overwrite_covered (by rwa [size_overwrite]) (by omega), overwrite_covered room (by omega)]
  · rw [overwrite_frame (by omega), overwrite_frame (by omega), overwrite_frame (by omega)]

/-- Writes over runs that have no byte in common may change places. -/
theorem overwrite_comm {buffer : Buffer} {left right : Nat} {first second : Bytes}
    (leftRoom : left + first.length ≤ buffer.size) (rightRoom : right + second.length ≤ buffer.size)
    (apart : left + first.length ≤ right ∨ right + second.length ≤ left) :
    (buffer.overwrite left first).overwrite right second =
      (buffer.overwrite right second).overwrite left first := by
  refine Array.ext_getElem? fun index => ?_
  by_cases inLeft : left ≤ index ∧ index < left + first.length
  · obtain ⟨lane, rfl⟩ := Nat.exists_eq_add_of_le inLeft.1
    rw [overwrite_frame (by omega), overwrite_covered leftRoom (by omega),
      overwrite_covered (by rwa [size_overwrite]) (by omega)]
  by_cases inRight : right ≤ index ∧ index < right + second.length
  · obtain ⟨lane, rfl⟩ := Nat.exists_eq_add_of_le inRight.1
    rw [overwrite_covered (by rwa [size_overwrite]) (by omega), overwrite_frame (by omega),
      overwrite_covered rightRoom (by omega)]
  · rw [overwrite_frame (by omega), overwrite_frame (by omega), overwrite_frame (by omega),
      overwrite_frame (by omega)]

theorem copy_frame {buffer source : Buffer} {start origin count index : Nat}
    (outside : index < start ∨ start + count ≤ index) :
    (copy buffer start source origin count)[index]? = buffer[index]? := by
  induction count generalizing buffer start origin with
  | zero => rfl
  | succ count ih =>
      rw [copy, ih (by omega)]
      exact Array.getElem?_setIfInBounds_ne (by omega)

theorem copy_covered {buffer source : Buffer} {start origin count lane : Nat}
    (room : start + count ≤ buffer.size) (bound : lane < count) :
    (copy buffer start source origin count)[start + lane]? = some (source.getD (origin + lane) 0) := by
  induction count generalizing buffer start origin lane with
  | zero => exact absurd bound (Nat.not_lt_zero lane)
  | succ count ih =>
      rw [copy]
      cases lane with
      | zero =>
          rw [copy_frame (Or.inl (by omega))]
          exact Array.getElem?_setIfInBounds_self_of_lt (by omega)
      | succ lane =>
          have fits : start + 1 + count ≤ (buffer.setIfInBounds start (source.getD origin 0)).size := by
            rw [Array.size_setIfInBounds]
            omega
          have shifted : (copy (buffer.setIfInBounds start (source.getD origin 0)) (start + 1) source
              (origin + 1) count)[start + 1 + lane]? = some (source.getD (origin + 1 + lane) 0) :=
            ih fits (Nat.lt_of_succ_lt_succ bound)
          simpa only [Nat.add_assoc, Nat.add_comm 1 lane] using shifted

theorem clear_eq_copy (buffer : Buffer) (start origin count : Nat) :
    clear buffer start count = copy buffer start #[] origin count := by
  induction count generalizing buffer start origin with
  | zero => rfl
  | succ count ih =>
      rw [clear, copy, ih _ _ (origin + 1)]
      rfl

theorem clear_frame {buffer : Buffer} {start count index : Nat}
    (outside : index < start ∨ start + count ≤ index) :
    (clear buffer start count)[index]? = buffer[index]? := by
  rw [clear_eq_copy buffer start 0 count]
  exact copy_frame outside

theorem clear_covered {buffer : Buffer} {start count lane : Nat}
    (room : start + count ≤ buffer.size) (bound : lane < count) :
    (clear buffer start count)[start + lane]? = some 0 := by
  rw [clear_eq_copy buffer start 0 count, copy_covered room bound]
  rfl

theorem word_congr {left right : Buffer} {start width : Nat}
    (same : ∀ index, start ≤ index → index < start + width → left[index]? = right[index]?) :
    left.word start width = right.word start width := by
  induction width generalizing start with
  | zero => rfl
  | succ width ih =>
      have first : left.getD start 0 = right.getD start 0 := by
        simp only [Array.getD_eq_getD_getElem?, same start (Nat.le_refl start) (by omega)]
      have others : left.word (start + 1) width = right.word (start + 1) width :=
        ih fun index lower upper => same index (by omega) (by omega)
      rw [word, word, first, others]

theorem word_lt (buffer : Buffer) (start width : Nat) : buffer.word start width < 256 ^ width := by
  induction width generalizing start with
  | zero => simp only [word, pow_zero, Nat.lt_one_iff]
  | succ width ih =>
      have small : (buffer.getD start 0).toNat < 256 := (buffer.getD start 0).toNat_lt
      have others := ih (start + 1)
      rw [word, pow_succ]
      omega

theorem byte_of_word {left right : Buffer} {start width lane : Nat}
    (same : left.word start width = right.word start width) (bound : lane < width) :
    left.getD (start + lane) 0 = right.getD (start + lane) 0 := by
  induction width generalizing start lane with
  | zero => exact absurd bound (Nat.not_lt_zero lane)
  | succ width ih =>
      have leftSmall : (left.getD start 0).toNat < 256 := (left.getD start 0).toNat_lt
      have rightSmall : (right.getD start 0).toNat < 256 := (right.getD start 0).toNat_lt
      simp only [word] at same
      cases lane with
      | zero =>
          rw [← UInt8.toNat_inj, Nat.add_zero]
          omega
      | succ lane =>
          have others : left.word (start + 1) width = right.word (start + 1) width := by omega
          have shifted := ih others (Nat.lt_of_succ_lt_succ bound)
          simpa only [Nat.add_assoc, Nat.add_comm 1 lane] using shifted

/-- A word and the bytes around it are the whole buffer. -/
theorem ext_word {left right : Buffer} {start width : Nat} (size : left.size = right.size)
    (word : left.word start width = right.word start width)
    (frame : ∀ index, (index < start ∨ start + width ≤ index) → left[index]? = right[index]?) :
    left = right := by
  refine Array.ext_getElem? fun index => ?_
  by_cases covered : start ≤ index ∧ index < start + width
  · obtain ⟨lane, rfl⟩ := Nat.exists_eq_add_of_le covered.1
    have same := byte_of_word word (Nat.lt_of_add_lt_add_left covered.2)
    by_cases inside : start + lane < left.size
    · have reached : start + lane < right.size := size ▸ inside
      simp only [Array.getD_eq_getD_getElem?, Array.getElem?_eq_getElem inside,
        Array.getElem?_eq_getElem reached, Option.getD_some] at same ⊢
      rw [same]
    · rw [Array.getElem?_eq_none (by omega), Array.getElem?_eq_none (by omega)]
  · exact frame index (by omega)

theorem word_overwrite {buffer : Buffer} {start : Nat} {bytes : Bytes}
    (room : start + bytes.length ≤ buffer.size) :
    (overwrite buffer start bytes).word start bytes.length = Bytes.littleEndian bytes := by
  induction bytes generalizing buffer start with
  | nil => rfl
  | cons byte rest ih =>
      have first : (overwrite buffer start (byte :: rest))[start + 0]? = (byte :: rest)[0]? :=
        overwrite_covered room (by simp only [List.length_cons, Nat.succ_pos])
      have others : (overwrite buffer start (byte :: rest)).word (start + 1) rest.length =
          Bytes.littleEndian rest := by
        simp only [List.length_cons] at room
        exact ih (by simp only [Array.size_setIfInBounds]; omega)
      simp only [Nat.add_zero, List.getElem?_cons_zero] at first
      rw [List.length_cons, word, others, Array.getD_eq_getD_getElem?, first, Option.getD_some,
        Bytes.littleEndian]

/-- Writing back what stands there changes nothing. -/
theorem overwrite_word {buffer : Buffer} {start width : Nat} :
    buffer.overwrite start (Bytes.ofNat width (buffer.word start width)) = buffer := by
  induction width generalizing start with
  | zero => rfl
  | succ width ih =>
      have small : (buffer.getD start 0).toNat < 256 := (buffer.getD start 0).toNat_lt
      have lowest : UInt8.ofNat (buffer.word start (width + 1)) = buffer.getD start 0 := by
        rw [← UInt8.toNat_inj, UInt8.toNat_ofNat', word]
        omega
      have others : buffer.word start (width + 1) / 256 = buffer.word (start + 1) width := by
        rw [word]
        omega
      have kept : buffer.setIfInBounds start (buffer.getD start 0) = buffer := by
        refine Array.ext_getElem? fun index => ?_
        rw [Array.getElem?_setIfInBounds, Array.getD_eq_getD_getElem?]
        split
        · next same =>
            subst same
            split
            · next inside => rw [Array.getElem?_eq_getElem inside, Option.getD_some]
            · next outside => exact (Array.getElem?_eq_none (Nat.le_of_not_lt outside)).symm
        · rfl
      rw [Bytes.ofNat, overwrite, lowest, others, kept, ih]

theorem getElem?_slice (buffer : Buffer) (start length lane : Nat) :
    (buffer.slice start length)[lane]? = if lane < length then buffer[start + lane]? else none := by
  rw [slice, Array.getElem?_extract]
  split
  · rw [if_pos (by omega)]
  · split
    · exact (Array.getElem?_eq_none (by omega)).symm
    · rfl

theorem slice_congr {left right : Buffer} {start length : Nat}
    (same : ∀ index, start ≤ index → index < start + length → left[index]? = right[index]?) :
    left.slice start length = right.slice start length := by
  refine Array.ext_getElem? fun lane => ?_
  rw [getElem?_slice, getElem?_slice]
  split
  · exact same (start + lane) (Nat.le_add_right _ _) (by omega)
  · rfl

theorem word_slice (buffer : Buffer) (start offset length width : Nat)
    (inside : offset + width ≤ length) :
    (buffer.slice start length).word offset width = buffer.word (start + offset) width := by
  induction width generalizing offset with
  | zero => rfl
  | succ width ih =>
      have first : (buffer.slice start length)[offset]? = buffer[start + offset]? := by
        rw [getElem?_slice, if_pos (by omega)]
      have others := ih (offset + 1) (by omega)
      rw [word, word, others, Array.getD_eq_getD_getElem?, Array.getD_eq_getD_getElem?, first,
        Nat.add_assoc]

theorem size_slice {source : Buffer} {start length : Nat} (inside : start + length ≤ source.size) :
    (source.slice start length).size = length := by
  unfold slice
  rw [Array.size_extract]
  omega

theorem slice_slice (source : Buffer) {start length offset part : Nat} (inside : offset + part ≤ length) :
    (source.slice start length).slice offset part = source.slice (start + offset) part := by
  unfold slice
  rw [Array.extract_extract]
  congr 1
  omega

theorem copy_eq_overwrite {buffer source : Buffer} {start origin count : Nat}
    (inside : origin + count ≤ source.size) :
    buffer.copy start source origin count = buffer.overwrite start (source.slice origin count).toList := by
  induction count generalizing buffer start origin with
  | zero =>
      have empty : (source.slice origin 0).toList = [] :=
        List.eq_nil_of_length_eq_zero (size_slice inside)
      rw [empty]
      rfl
  | succ count ih =>
      have cut : (source.slice origin (count + 1)).toList =
          source.getD origin 0 :: (source.slice (origin + 1) count).toList := by
        have bound : origin < source.toList.length := by
          rw [Array.length_toList]
          omega
        have long : origin + (count + 1) - origin = count + 1 := by omega
        have short : origin + 1 + count - (origin + 1) = count := by omega
        rw [slice, slice, Array.toList_extract, Array.toList_extract, List.extract_eq_drop_take',
          List.extract_eq_drop_take', List.drop_take, List.drop_take, long, short,
          List.drop_eq_getElem_cons bound, List.take_succ_cons, Array.getD_eq_getD_getElem?,
          Array.getElem?_eq_getElem bound, Option.getD_some, Array.getElem_toList]
      rw [cut, copy, overwrite, ih (by omega)]

end Buffer

end EfiHandoff
