import EfiHandoff.Proofs.Buffer

/-!
# What is written in a buffer

A buffer holds a run of bytes at a place. A run that was put together from parts is held part by part, and what a part
says is read back from its place.
-/

set_option autoImplicit false

namespace EfiHandoff.Buffer

/-- The bytes stand in the buffer from a place on. -/
def Holds (buffer : Buffer) (start : Nat) (bytes : Bytes) : Prop :=
  ∀ lane < bytes.length, buffer[start + lane]? = bytes[lane]?

variable {buffer : Buffer} {start : Nat}

theorem holds_nil : buffer.Holds start [] := fun _ absent => absurd absent (Nat.not_lt_zero _)

theorem holds_toArray (bytes : Bytes) : Buffer.Holds bytes.toArray 0 bytes := by
  intro lane _
  rw [Nat.zero_add, List.getElem?_toArray]

theorem holds_append {first second : Bytes} :
    buffer.Holds start (first ++ second) ↔
      buffer.Holds start first ∧ buffer.Holds (start + first.length) second := by
  constructor
  · intro holds
    constructor
    · intro lane bound
      rw [holds lane (by rw [List.length_append]; omega), List.getElem?_append_left bound]
    · intro lane bound
      rw [Nat.add_assoc, holds (first.length + lane) (by rw [List.length_append]; omega),
        List.getElem?_append_right (Nat.le_add_right _ _), Nat.add_sub_cancel_left]
  · intro ⟨early, late⟩ lane bound
    rw [List.length_append] at bound
    by_cases before : lane < first.length
    · rw [early lane before, List.getElem?_append_left before]
    · obtain ⟨rest, rfl⟩ := Nat.exists_eq_add_of_le (Nat.le_of_not_lt before)
      rw [← Nat.add_assoc, late rest (by omega), List.getElem?_append_right (Nat.le_add_right _ _),
        Nat.add_sub_cancel_left]

theorem holds_cons {byte : UInt8} {rest : Bytes} :
    buffer.Holds start (byte :: rest) ↔ buffer[start]? = some byte ∧ buffer.Holds (start + 1) rest := by
  rw [← List.singleton_append, holds_append]
  refine and_congr ⟨fun holds => holds 0 Nat.zero_lt_one, ?_⟩ Iff.rfl
  intro same lane bound
  obtain rfl := Nat.lt_one_iff.mp bound
  exact same

/-- A run that is not empty lies in the buffer. -/
theorem Holds.inside {bytes : Bytes} (holds : buffer.Holds start bytes) (filled : bytes ≠ []) :
    start + bytes.length ≤ buffer.size := by
  have length : 0 < bytes.length := List.length_pos_iff.mpr filled
  have last := holds (bytes.length - 1) (by omega)
  rw [List.getElem?_eq_getElem (by omega), Array.getElem?_eq_some_iff] at last
  obtain ⟨bound, -⟩ := last
  omega

/-- The bytes that a buffer holds are what is sliced out of it. -/
theorem Holds.slice {bytes : Bytes} (holds : buffer.Holds start bytes) :
    buffer.slice start bytes.length = bytes.toArray := by
  refine Array.ext_getElem? fun lane => ?_
  rw [getElem?_slice, @List.getElem?_toArray _ bytes]
  split
  · next bound => exact holds lane bound
  · next past => exact (List.getElem?_eq_none (Nat.le_of_not_lt past)).symm

theorem holds_slice (buffer : Buffer) (start length : Nat) :
    buffer.Holds start (buffer.slice start length).toList := by
  intro lane bound
  have short : lane < length := by
    rw [Array.length_toList, Buffer.slice, Array.size_extract] at bound
    omega
  rw [Array.getElem?_toList, getElem?_slice, if_pos short]

theorem Holds.getD {bytes : Bytes} {lane : Nat} (holds : buffer.Holds start bytes) (bound : lane < bytes.length) :
    buffer.getD (start + lane) 0 = bytes.getD lane 0 := by
  rw [Array.getD_eq_getD_getElem?, holds lane bound, List.getD_eq_getElem?_getD]

theorem Holds.word {bytes : Bytes} (holds : buffer.Holds start bytes) :
    buffer.word start bytes.length = Bytes.littleEndian bytes := by
  induction bytes generalizing start with
  | nil => rfl
  | cons byte rest ih =>
      obtain ⟨first, others⟩ := holds_cons.mp holds
      rw [List.length_cons, Buffer.word, ih others, Array.getD_eq_getD_getElem?, first, Option.getD_some,
        Bytes.littleEndian]

/-- A number is read back from where it was written, if it fits there. -/
theorem Holds.number {width value : Nat} (holds : buffer.Holds start (Bytes.ofNat width value))
    (fits : value < 256 ^ width) : buffer.word start width = value := by
  have read := holds.word
  rwa [Bytes.length_ofNat, Bytes.littleEndian_ofNat, Nat.mod_eq_of_lt fits] at read

/-- The number in bytes that a function says one by one. -/
theorem word_of_bytes {width : Nat} {bytes : Nat → UInt8}
    (shows : ∀ lane < width, buffer[start + lane]? = some (bytes (start + lane))) :
    buffer.word start width = Bytes.littleEndian ((List.range width).map fun lane => bytes (start + lane)) := by
  have holds : buffer.Holds start ((List.range width).map fun lane => bytes (start + lane)) := by
    intro lane bound
    rw [List.length_map, List.length_range] at bound
    rw [shows lane bound, List.getElem?_map, List.getElem?_range bound, Option.map_some]
  have read := holds.word
  rwa [List.length_map, List.length_range] at read

end EfiHandoff.Buffer
