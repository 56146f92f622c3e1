import EfiHandoff.Bounds
import EfiHandoff.Proofs.Buffer

/-!
# What the checks of places amount to

A run is accepted exactly when it lies in the buffer, and an accepted run of a mapped image can be read and
written. Buffers are smaller than the address space, so the refusal of large sums never decides.
-/

set_option autoImplicit false

namespace EfiHandoff

theorem checkedAdd_of_lt {left right : Nat} (fits : left + right < wordLimit) :
    checkedAdd left right = some (left + right) := if_pos fits

theorem checkedAdd_of_le {left right : Nat} (large : wordLimit ≤ left + right) : checkedAdd left right = none :=
  if_neg (Nat.not_lt.mpr large)

/-- Two 32-bit numbers do not leave the 64-bit range together. -/
theorem words_reach (left right : UInt32) : left.toNat + right.toNat ≤ wordLimit := by
  have leftSmall : left.toNat < 0x100000000 := left.toNat_lt
  have rightSmall : right.toNat < 0x100000000 := right.toNat_lt
  unfold wordLimit
  omega

namespace Position

theorem within?_eq_some_iff {size offset : Nat} {place : Position} :
    within? size offset = some place ↔ offset < size ∧ place = ⟨offset⟩ := by
  rw [within?, Option.ite_none_right_eq_some, Option.some_inj, @eq_comm _ place]

theorem upTo?_eq_some_iff {size offset : Nat} {place : Position} :
    upTo? size offset = some place ↔ offset ≤ size ∧ place = ⟨offset⟩ := by
  rw [upTo?, Option.ite_none_right_eq_some, Option.some_inj, @eq_comm _ place]

theorem within?_eq_none_iff {size offset : Nat} : within? size offset = none ↔ size ≤ offset := by
  simp only [within?, ite_eq_right_iff, reduceCtorEq, imp_false, Nat.not_lt]

theorem upTo?_eq_none_iff {size offset : Nat} : upTo? size offset = none ↔ size < offset := by
  simp only [upTo?, ite_eq_right_iff, reduceCtorEq, imp_false, Nat.not_le]

end Position

namespace Extent

theorem within?_sound {size offset length : Nat} {run : Extent}
    (accepted : within? size offset length = some run) :
    run = ⟨offset, length⟩ ∧ offset + length ≤ size := by
  unfold within? at accepted
  by_cases empty : length = 0
  · simp only [empty, ↓reduceIte, Position.upTo?] at accepted
    by_cases inside : offset ≤ size
    · simp only [inside, ↓reduceIte, Option.map_some, Option.some.injEq] at accepted
      exact ⟨by rw [← accepted, empty], by omega⟩
    · simp only [inside, ↓reduceIte, Option.map_none, reduceCtorEq] at accepted
  · simp only [empty, ↓reduceIte, Option.bind_eq_bind, Option.bind_eq_some_iff] at accepted
    obtain ⟨start, startFound, last, lastFound, place, placeFound, shape⟩ := accepted
    simp only [Position.within?, checkedAdd, Option.ite_none_right_eq_some, Option.some.injEq]
      at startFound lastFound placeFound
    obtain ⟨-, rfl⟩ := startFound
    obtain ⟨-, rfl⟩ := lastFound
    simp only [Option.pure_def, Option.some.injEq] at shape
    exact ⟨shape.symm, by omega⟩

theorem within?_of_reach {size offset length : Nat} (reach : offset + length ≤ wordLimit)
    (inside : offset + length ≤ size) : within? size offset length = some ⟨offset, length⟩ := by
  unfold within?
  by_cases empty : length = 0
  · have reached : offset ≤ size := by omega
    simp only [empty, ↓reduceIte, Position.upTo?, reached, Option.map_some]
  · have first : offset < size := by omega
    have last : offset + (length - 1) < size := by omega
    have fits : offset + (length - 1) < wordLimit := by omega
    simp only [empty, ↓reduceIte, Position.within?, first, checkedAdd, fits, last,
      Option.bind_eq_bind, Option.bind_some, Option.pure_def]

theorem within?_of_le {size offset length : Nat} (bounded : size ≤ wordLimit)
    (inside : offset + length ≤ size) : within? size offset length = some ⟨offset, length⟩ :=
  within?_of_reach (Nat.le_trans inside bounded) inside

theorem within?_of_lt {size offset length : Nat} (outside : size < offset + length) :
    within? size offset length = none := by
  cases found : within? size offset length with
  | none => rfl
  | some run => exact absurd (within?_sound found).2 (Nat.not_le.mpr outside)

theorem within?_eq_ite {size offset length : Nat} (reach : offset + length ≤ wordLimit) :
    within? size offset length = if offset + length ≤ size then some ⟨offset, length⟩ else none := by
  by_cases inside : offset + length ≤ size
  · rw [if_pos inside, within?_of_reach reach inside]
  · rw [if_neg inside, within?_of_lt (Nat.lt_of_not_le inside)]

theorem within?_eq_some_iff {size offset length : Nat} {run : Extent} (bounded : size ≤ wordLimit) :
    within? size offset length = some run ↔ offset + length ≤ size ∧ run = ⟨offset, length⟩ := by
  constructor
  · intro accepted
    exact (within?_sound accepted).symm
  · rintro ⟨inside, rfl⟩
    exact within?_of_le bounded inside

theorem within?_eq_none_iff {size offset length : Nat} (bounded : size ≤ wordLimit) :
    within? size offset length = none ↔ size < offset + length := by
  constructor
  · intro refused
    by_contra inside
    rw [within?_of_le bounded (by omega)] at refused
    cases refused
  · exact within?_of_lt

theorem of?_of_le {run : Extent} {buffer : Buffer} (inside : run.offset + run.length ≤ buffer.size) :
    run.of? buffer = some (buffer.slice run.offset run.length) := if_pos inside

end Extent

namespace MappedImage

theorem at?_eq_some_iff {bytes : Buffer} {address : UInt64} {image : MappedImage} :
    at? bytes address = some image ↔ image.bytes = bytes ∧ image.address = address := by
  unfold at?
  constructor
  · intro placed
    split at placed
    · obtain rfl := Option.some.inj placed
      exact ⟨rfl, rfl⟩
    · cases placed
  · intro shape
    obtain ⟨rfl, rfl⟩ := shape
    exact dif_pos image.fits

theorem size_lt (image : MappedImage) : image.bytes.size < wordLimit :=
  Nat.lt_of_le_of_lt (Nat.le_add_left _ _) image.fits

/-- The address of a place up to the end of the image is not beyond the top of the address space. -/
theorem absolute_toNat (image : MappedImage) {place : Position} (reached : place.offset ≤ image.bytes.size) :
    (image.absolute place).toNat = image.address.toNat + place.offset := by
  have fits := image.fits
  unfold wordLimit at fits
  rw [absolute, UInt64.toNat_add, UInt64.toNat_ofNat', Nat.add_mod_mod]
  exact Nat.mod_eq_of_lt (by omega)

theorem read?_of_inside (image : MappedImage) {offset width : Nat}
    (inside : offset + width ≤ image.bytes.size) :
    image.read? width ⟨offset, width⟩ = some (image.bytes.slice offset width) := by
  simp only [read?, ↓reduceIte, Extent.of?, inside]

def overwritten (image : MappedImage) (offset : Nat) (value : Bytes) : MappedImage :=
  ⟨image.bytes.overwrite offset value, image.address, by
    rw [Buffer.size_overwrite]; exact image.fits⟩

theorem write?_of_inside (image : MappedImage) (offset : Nat) (value : Bytes)
    (inside : offset + value.length ≤ image.bytes.size) :
    image.write? ⟨offset, value.length⟩ value = some (image.overwritten offset value) := by
  simp only [write?, true_and, inside, ↓reduceIte, overwritten]

end MappedImage

end EfiHandoff
