import EfiHandoff.Proofs.Bounds
import EfiHandoff.Proofs.Written

/-!
# A mapped image is a memory

The checks of places accept exactly what lies in a buffer. Over the runs that were checked against it a mapped image is
a memory: each byte is what the last write put there, a value is read back until another write reaches its run, and a
refused write leaves the image as it was. Addresses of checked places do not wrap.
-/

set_option autoImplicit false

namespace EfiHandoff

/-- The checks against `size` bytes accept the places and runs that lie in them, and keep offset and length. -/
structure ChecksExactly (size : Nat) : Prop where
  within (offset : Nat) (place : Position) :
    Position.within? size offset = some place ↔ offset < size ∧ place = ⟨offset⟩
  upTo (offset : Nat) (place : Position) :
    Position.upTo? size offset = some place ↔ offset ≤ size ∧ place = ⟨offset⟩
  run (offset length : Nat) (run : Extent) :
    Extent.within? size offset length = some run ↔ offset + length ≤ size ∧ run = ⟨offset, length⟩

private theorem checksExactly {size : Nat} (bounded : size ≤ wordLimit) : ChecksExactly size where
  within _ _ := Position.within?_eq_some_iff
  upTo _ _ := Position.upTo?_eq_some_iff
  run _ _ _ := Extent.within?_eq_some_iff bounded

namespace Extent

def Covers (run : Extent) (index : Nat) : Prop := run.offset ≤ index ∧ index < run.offset + run.length

instance (run : Extent) (index : Nat) : Decidable (run.Covers index) :=
  inferInstanceAs (Decidable (run.offset ≤ index ∧ index < run.offset + run.length))

/-- No byte belongs to both. An empty run is apart from every run, also from one it lies in. -/
def Apart (left right : Extent) : Prop := ∀ index, left.Covers index → ¬ right.Covers index

theorem Apart.symm {left right : Extent} (apart : left.Apart right) : right.Apart left :=
  fun index inRight inLeft => apart index inLeft inRight

private theorem apart_of_le {left right : Extent} (before : left.offset + left.length ≤ right.offset) :
    left.Apart right :=
  fun _ ⟨_, inside⟩ ⟨outside, _⟩ => absurd (Nat.lt_of_lt_of_le inside before) (Nat.not_lt.mpr outside)

end Extent

namespace MappedImage

def Accepts (image : MappedImage) (run : Extent) : Prop :=
  ∃ offset length, Extent.within? image.size offset length = some run

structure Write where
  run : Extent
  value : Bytes
deriving DecidableEq, Repr

namespace Write

def Fits (write : Write) (size : Nat) : Prop :=
  write.run.length = write.value.length ∧ write.run.offset + write.run.length ≤ size

instance (write : Write) (size : Nat) : Decidable (write.Fits size) :=
  inferInstanceAs (Decidable (write.run.length = write.value.length ∧ write.run.offset + write.run.length ≤ size))

/-- What the write puts at `index` of an image of `size` bytes. -/
def byte? (write : Write) (size index : Nat) : Option UInt8 :=
  if write.Fits size ∧ write.run.Covers index then write.value[index - write.run.offset]? else none

end Write

/-- The image after a write was tried, which is the old one if it was refused. -/
def after (image : MappedImage) (write : Write) : MappedImage :=
  (image.write? write.run write.value).getD image

def afterAll (image : MappedImage) (writes : List Write) : MappedImage := writes.foldl after image

/-- The byte at `index` after the writes: the last of them that puts something there decides. -/
def lastWritten (image : MappedImage) (writes : List Write) (index : Nat) : Option UInt8 :=
  (writes.reverse.findSome? (·.byte? image.size index)).or image.bytes[index]?

variable {image : MappedImage} {run : Extent} {write : Write}

theorem accepts_iff : image.Accepts run ↔ run.offset + run.length ≤ image.bytes.size := by
  constructor
  · rintro ⟨offset, length, accepted⟩
    obtain ⟨rfl, inside⟩ := Extent.within?_sound accepted
    exact inside
  · intro inside
    exact ⟨run.offset, run.length, Extent.within?_of_le (Nat.le_of_lt image.size_lt) inside⟩

section Writing

private theorem write?_of_fits (fits : write.Fits image.size) :
    image.write? write.run write.value = some (image.overwritten write.run.offset write.value) := if_pos fits

private theorem write?_of_not_fits (refused : ¬ write.Fits image.size) : image.write? write.run write.value = none :=
  if_neg refused

private theorem after_of_fits (fits : write.Fits image.size) :
    image.after write = image.overwritten write.run.offset write.value := by
  rw [after, write?_of_fits fits, Option.getD_some]

private theorem after_of_not_fits (refused : ¬ write.Fits image.size) : image.after write = image := by
  rw [after, write?_of_not_fits refused, Option.getD_none]

theorem after_keeps (image : MappedImage) (write : Write) :
    (image.after write).address = image.address ∧ (image.after write).size = image.size := by
  by_cases fits : write.Fits image.size
  · rw [after_of_fits fits]
    exact ⟨rfl, Buffer.size_overwrite _ _ _⟩
  · rw [after_of_not_fits fits]
    exact ⟨rfl, rfl⟩

theorem afterAll_keeps (image : MappedImage) (writes : List Write) :
    (image.afterAll writes).address = image.address ∧ (image.afterAll writes).size = image.size := by
  induction writes generalizing image with
  | nil => exact ⟨rfl, rfl⟩
  | cons write rest ih =>
      obtain ⟨address, size⟩ := after_keeps image write
      obtain ⟨laterAddress, laterSize⟩ := ih (image.after write)
      exact ⟨laterAddress.trans address, laterSize.trans size⟩

private theorem after_byte (image : MappedImage) (write : Write) (index : Nat) :
    (image.after write).bytes[index]? = (write.byte? image.size index).or image.bytes[index]? := by
  by_cases fits : write.Fits image.size
  · have room : write.run.offset + write.value.length ≤ image.bytes.size := fits.1 ▸ fits.2
    rw [after_of_fits fits]
    by_cases covered : write.run.Covers index
    · rw [Write.byte?, if_pos ⟨fits, covered⟩]
      obtain ⟨above, below⟩ := covered
      obtain ⟨lane, rfl⟩ := Nat.exists_eq_add_of_le above
      have bound : lane < write.value.length := fits.1 ▸ Nat.lt_of_add_lt_add_left below
      rw [Nat.add_sub_cancel_left, List.getElem?_eq_getElem bound, Option.some_or,
        ← List.getElem?_eq_getElem bound]
      exact Buffer.overwrite_covered room bound
    · rw [Write.byte?, if_neg fun both => covered both.2, Option.none_or]
      refine Buffer.overwrite_frame ?_
      unfold Extent.Covers at covered
      rw [← fits.1]
      omega
  · rw [after_of_not_fits fits, Write.byte?, if_neg fun both => fits both.1, Option.none_or]

private theorem afterAll_byte (image : MappedImage) (writes : List Write) (index : Nat) :
    (image.afterAll writes).bytes[index]? = image.lastWritten writes index := by
  induction writes generalizing image with
  | nil => rfl
  | cons write rest ih =>
      have size := (after_keeps image write).2
      calc
        (image.afterAll (write :: rest)).bytes[index]? = (image.after write).lastWritten rest index := ih _
        _ = (rest.reverse.findSome? (·.byte? image.size index)).or
              ((write.byte? image.size index).or image.bytes[index]?) := by
            rw [lastWritten, size, after_byte]
        _ = image.lastWritten (write :: rest) index := by
            rw [lastWritten, List.reverse_cons, List.findSome?_append, Option.or_assoc, List.findSome?_singleton]

end Writing

section Reading

variable {width : Nat}

private theorem read?_of_ne (other : width ≠ run.length) : image.read? width run = none := if_neg other.symm

/-- A read depends on nothing but the bytes of its run. -/
theorem read?_congr {left right : MappedImage} (size : left.size = right.size)
    (same : ∀ index, run.Covers index → left.bytes[index]? = right.bytes[index]?) :
    left.read? width run = right.read? width run := by
  have slices := Buffer.slice_congr fun index low high => same index ⟨low, high⟩
  unfold MappedImage.size at size
  rw [read?, read?, Extent.of?, Extent.of?, size, slices]

private theorem read?_afterAll {writes : List Write}
    (apart : ∀ write ∈ writes, write.Fits image.size → write.run.Apart run) :
    (image.afterAll writes).read? width run = image.read? width run := by
  refine read?_congr (afterAll_keeps image writes).2 fun index covered => ?_
  have untouched : writes.reverse.findSome? (·.byte? image.size index) = none := by
    refine List.findSome?_eq_none_iff.mpr fun write member => ?_
    exact if_neg fun ⟨fits, reached⟩ => apart write (List.mem_reverse.mp member) fits index reached covered
  rw [afterAll_byte, lastWritten, untouched, Option.none_or]

private theorem read?_after_same (fits : write.Fits image.size) :
    (image.after write).read? write.run.length write.run = some write.value.toArray := by
  have room : write.run.offset + write.value.length ≤ image.bytes.size := fits.1 ▸ fits.2
  have holds : (image.after write).bytes.Holds write.run.offset write.value := by
    rw [after_of_fits fits]
    exact fun lane bound => Buffer.overwrite_covered room bound
  have inside : write.run.offset + write.run.length ≤ (image.after write).bytes.size :=
    fits.2.trans_eq (after_keeps image write).2.symm
  have read := read?_of_inside (image.after write) inside
  rwa [fits.1, holds.slice, ← fits.1] at read

end Reading

/-- What an image does with a write that fits: the write succeeds, and it changes its run and nothing else. -/
structure Takes (image : MappedImage) (write : Write) : Prop where
  accepted : image.write? write.run write.value = some (image.after write)
  /-- The value is read back, also after later writes, unless they are accepted and reach its run. -/
  readBack (later : List Write) : (∀ other ∈ later, other.Fits image.size → other.run.Apart write.run) →
    ((image.after write).afterAll later).read? write.run.length write.run = some write.value.toArray
  elsewhere (other : Extent) (width : Nat) : other.Apart write.run →
    (image.after write).read? width other = image.read? width other
  outside (index : Nat) : ¬ write.run.Covers index → (image.after write).bytes[index]? = image.bytes[index]?

private theorem takes_of_fits (fits : write.Fits image.size) : image.Takes write where
  accepted := by rw [write?_of_fits fits, after_of_fits fits]
  readBack later apart := by
    rw [read?_afterAll (by rwa [(after_keeps image write).2]), read?_after_same fits]
  elsewhere _ _ apart := read?_afterAll (List.forall_mem_singleton.mpr fun _ => apart.symm)
  outside index uncovered := by
    rw [after_byte, Write.byte?, if_neg fun both => uncovered both.2, Option.none_or]

/-- What the runs checked against an image can rely on. -/
structure IsMemory (image : MappedImage) : Prop where
  reads (run : Extent) : image.Accepts run →
    ∃ value, image.read? run.length run = some value ∧ value.size = run.length ∧
      image.bytes.Holds run.offset value.toList
  takes (write : Write) : image.Accepts write.run → write.value.length = write.run.length → image.Takes write
  refusesRead (run : Extent) (width : Nat) : width ≠ run.length → image.read? width run = none
  refusesWrite (write : Write) : write.value.length ≠ write.run.length →
    image.write? write.run write.value = none ∧ image.after write = image
  keeps (writes : List Write) :
    (image.afterAll writes).address = image.address ∧ (image.afterAll writes).size = image.size ∧
      ∀ index, (image.afterAll writes).bytes[index]? = image.lastWritten writes index
  absolute (offset : Nat) (place : Position) :
    Position.within? image.size offset = some place ∨ Position.upTo? image.size offset = some place →
      (image.absolute place).toNat = image.address.toNat + offset

theorem isMemory (image : MappedImage) : image.IsMemory where
  reads run accepts := by
    have inside := accepts_iff.mp accepts
    exact ⟨_, read?_of_inside image inside, Buffer.size_slice inside, Buffer.holds_slice _ _ _⟩
  takes write accepts width := takes_of_fits ⟨width.symm, accepts_iff.mp accepts⟩
  refusesRead _ _ other := read?_of_ne other
  refusesWrite write other := by
    have refused : ¬ write.Fits image.size := fun fits => other fits.1.symm
    exact ⟨write?_of_not_fits refused, after_of_not_fits refused⟩
  keeps writes := by
    obtain ⟨address, size⟩ := afterAll_keeps image writes
    exact ⟨address, size, afterAll_byte image writes⟩
  absolute offset place found := by
    have reached : offset ≤ image.size ∧ place = ⟨offset⟩ := by
      rcases found with inside | upTo
      · obtain ⟨before, same⟩ := Position.within?_eq_some_iff.mp inside
        exact ⟨Nat.le_of_lt before, same⟩
      · exact Position.upTo?_eq_some_iff.mp upTo
    obtain ⟨reached, rfl⟩ := reached
    exact absolute_toNat image reached

/-- Places and runs are accepted exactly if they lie in the buffer, whatever 64-bit size it has. Bytes are placed at an
address exactly if they end below the top of the address space, and what is placed there is a memory. -/
theorem placed_is_memory (bytes : Buffer) (address : UInt64) :
    (∀ size : UInt64, ChecksExactly size.toNat) ∧
    ((∃ image, at? bytes address = some image) ↔ address.toNat + bytes.size < 2 ^ 64) ∧
    ∀ image, at? bytes address = some image →
      image.bytes = bytes ∧ image.address = address ∧ image.IsMemory := by
  refine ⟨fun size => checksExactly (Nat.le_of_lt size.toNat_lt), ?_, ?_⟩
  · constructor
    · rintro ⟨image, placed⟩
      obtain ⟨rfl, rfl⟩ := at?_eq_some_iff.mp placed
      exact image.fits
    · intro fits
      exact ⟨⟨bytes, address, fits⟩, dif_pos fits⟩
  · intro image placed
    obtain ⟨same, lies⟩ := at?_eq_some_iff.mp placed
    exact ⟨same, lies, isMemory image⟩

def topmostBytes : Buffer := #[0, 1, 2, 3, 4, 5, 6, 7, 8, 9, 10, 11, 12, 13, 14]

def lastWrite : Write := ⟨⟨11, 4⟩, [0xef, 0xbe, 0xad, 0xde]⟩

/-- A write right before it, one that is refused because it is too short, and one that reaches past the end. -/
def laterWrites : List Write := [⟨⟨7, 4⟩, [1, 1, 1, 1]⟩, ⟨⟨11, 4⟩, [2, 2]⟩, ⟨⟨12, 4⟩, [3, 3, 3, 3]⟩]

theorem placed_is_memory_topmost :
    ∃ image, at? topmostBytes 0xfffffffffffffff0 = some image ∧
      image.write? ⟨11, 4⟩ [0xef, 0xbe, 0xad, 0xde] = some (image.after lastWrite) ∧
      ((image.after lastWrite).afterAll laterWrites).read? 4 ⟨11, 4⟩ = some #[0xef, 0xbe, 0xad, 0xde] ∧
      (image.after lastWrite).read? 4 ⟨7, 4⟩ = image.read? 4 ⟨7, 4⟩ ∧
      image.read? 2 ⟨11, 4⟩ = none ∧
      image.write? ⟨11, 4⟩ [2, 2] = none ∧
      (image.absolute ⟨15⟩).toNat = 0xffffffffffffffff := by
  obtain ⟨-, placeable, memory⟩ := placed_is_memory topmostBytes 0xfffffffffffffff0
  obtain ⟨image, placed⟩ := placeable.mpr (by decide)
  obtain ⟨same, lies, memory⟩ := memory image placed
  have size : image.size = 15 := congrArg Array.size same
  have accepts : image.Accepts lastWrite.run := ⟨11, 4, by rw [size]; rfl⟩
  have takes := memory.takes lastWrite accepts rfl
  have apart : (⟨7, 4⟩ : Extent).Apart ⟨11, 4⟩ := Extent.apart_of_le (by decide)
  have later : ∀ other ∈ laterWrites, other.Fits image.size → other.run.Apart lastWrite.run := by
    rw [size]
    refine List.forall_mem_cons.mpr ⟨fun _ => apart, List.forall_mem_cons.mpr ⟨?_, List.forall_mem_singleton.mpr ?_⟩⟩
    · exact fun short => absurd short (by decide)
    · exact fun past => absurd past (by decide)
  refine ⟨image, placed, takes.accepted, takes.readBack laterWrites later, takes.elsewhere ⟨7, 4⟩ 4 apart,
    memory.refusesRead ⟨11, 4⟩ 2 (by decide), (memory.refusesWrite ⟨⟨11, 4⟩, [2, 2]⟩ (by decide)).1, ?_⟩
  rw [memory.absolute 15 ⟨15⟩ (.inr (by rw [size]; rfl)), lies]
  rfl

end MappedImage

end EfiHandoff
