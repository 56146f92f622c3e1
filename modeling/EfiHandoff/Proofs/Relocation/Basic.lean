import EfiHandoff.Image.Relocation
import EfiHandoff.Proofs.Bounds

/-!
# One step of a relocation walk

What a single entry asks for, what patching does to the bytes, and what it means that the header of a block is
accepted. The walks over entries and blocks are described through these and are not opened again.
-/

set_option autoImplicit false

namespace EfiHandoff.Image

structure Fixup where
  kind : FixupKind
  target : Nat
deriving DecidableEq, Repr

namespace Fixup

def last (fixup : Fixup) : Nat := fixup.target + fixup.kind.width

def apply (delta : UInt64) (image : Buffer) (fixup : Fixup) : Buffer :=
  fixup.kind.patch delta image fixup.target

@[simp] theorem size_apply (delta : UInt64) (image : Buffer) (fixup : Fixup) :
    (fixup.apply delta image).size = image.size :=
  Buffer.size_overwrite _ _ _

theorem apply_frame (delta : UInt64) (image : Buffer) {fixup : Fixup} {index : Nat}
    (outside : index < fixup.target ∨ fixup.last ≤ index) :
    (fixup.apply delta image)[index]? = image[index]? :=
  Buffer.overwrite_frame (by simpa only [Bytes.length_ofNat, last] using outside)

/-- The patched value is the old one plus the addend, cut to the width of the value. -/
theorem word_apply (delta : UInt64) {image : Buffer} {fixup : Fixup}
    (inside : fixup.last ≤ image.size) :
    (fixup.apply delta image).word fixup.target fixup.kind.width =
      (image.word fixup.target fixup.kind.width + fixup.kind.addend delta) %
        256 ^ fixup.kind.width := by
  let value := Bytes.ofNat fixup.kind.width
    (image.word fixup.target fixup.kind.width + fixup.kind.addend delta)
  have width : value.length = fixup.kind.width := Bytes.length_ofNat _ _
  have written : (image.overwrite fixup.target value).word fixup.target value.length =
      Bytes.littleEndian value :=
    Buffer.word_overwrite (by rw [width]; exact inside)
  rw [width, Bytes.littleEndian_ofNat] at written
  exact written

end Fixup

/-- What an entry that reads `raw` asks for, in an image of `size` bytes: nothing, a fixup, or the impossible. -/
def entryDemand (size block page raw : Nat) : Except RelocationFault (Option Fixup) :=
  match FixupKind.ofCode? (raw / 0x1000) with
  | none => .error (.unknownKind (raw / 0x1000) block)
  | some .absolute => .ok none
  | some kind =>
      if page + raw % 0x1000 + kind.width ≤ size then .ok (some ⟨kind, page + raw % 0x1000⟩)
      else .error (.targetOutside (page + raw % 0x1000))

section Demand

variable {size block page raw : Nat} {kind : FixupKind}

theorem entryDemand_of_unknown (unknown : FixupKind.ofCode? (raw / 0x1000) = none) :
    entryDemand size block page raw = .error (.unknownKind (raw / 0x1000) block) := by
  simp only [entryDemand, unknown]

theorem entryDemand_of_absolute (padding : FixupKind.ofCode? (raw / 0x1000) = some .absolute) :
    entryDemand size block page raw = .ok none := by
  simp only [entryDemand, padding]

theorem entryDemand_of_patching (decoded : FixupKind.ofCode? (raw / 0x1000) = some kind)
    (patching : kind ≠ .absolute) :
    entryDemand size block page raw =
      if page + raw % 0x1000 + kind.width ≤ size then .ok (some ⟨kind, page + raw % 0x1000⟩)
      else .error (.targetOutside (page + raw % 0x1000)) := by
  cases kind with
  | absolute => exact absurd rfl patching
  | high | low | highLow | dir64 => simp only [entryDemand, decoded]

theorem entryDemand_some {fixup : Fixup} (asked : entryDemand size block page raw = .ok (some fixup)) :
    FixupKind.ofCode? (raw / 0x1000) = some fixup.kind ∧ fixup.kind ≠ .absolute ∧
      fixup.target = page + raw % 0x1000 ∧ fixup.last ≤ size := by
  cases decoded : FixupKind.ofCode? (raw / 0x1000) with
  | none =>
      rw [entryDemand_of_unknown decoded] at asked
      cases asked
  | some kind =>
      by_cases padding : kind = .absolute
      · rw [padding] at decoded
        rw [entryDemand_of_absolute decoded] at asked
        cases asked
      · rw [entryDemand_of_patching decoded padding] at asked
        split at asked
        · next inside =>
            cases asked
            exact ⟨rfl, padding, rfl, inside⟩
        · cases asked

end Demand

/-- That an entry lies outside the image is not for the entry to say. -/
theorem entryDemand_ne_entryOutside (size block page raw : Nat) :
    entryDemand size block page raw ≠ .error .entryOutside := by
  intro same
  unfold entryDemand at same
  split at same
  · cases same
  · cases same
  · split at same <;> cases same

section Entries

variable {delta : UInt64} {block page place count applied : Nat} {image : Buffer}

theorem applyEntries_succ (bounded : image.size ≤ wordLimit) (inside : place + 2 ≤ image.size) :
    applyEntries delta block page place (count + 1) applied image =
      match entryDemand image.size block page (image.word place 2) with
      | .error fault => ⟨image, .error fault⟩
      | .ok none => applyEntries delta block page (place + 2) count applied image
      | .ok (some fixup) =>
          applyEntries delta block page (place + 2) count (applied + 1)
            (fixup.apply delta image) := by
  rw [applyEntries, Extent.within?_of_le bounded inside]
  unfold entryDemand
  cases decoded : FixupKind.ofCode? (image.word place 2 / 0x1000) with
  | none => simp only [decoded]
  | some kind =>
      by_cases reached : page + image.word place 2 % 0x1000 + kind.width ≤ image.size
      · have accepted := Extent.within?_of_le bounded reached
        cases kind <;> simp only [decoded, accepted, reached, ↓reduceIte, Fixup.apply]
      · have refused := (Extent.within?_eq_none_iff bounded).mpr (Nat.lt_of_not_le reached)
        cases kind <;> simp only [decoded, refused, reached, ↓reduceIte]

theorem size_applyEntries :
    (applyEntries delta block page place count applied image).image.size = image.size := by
  fun_induction applyEntries delta block page place count applied image with
  | case1 => rfl
  | case2 => rfl
  | case3 => rfl
  | case4 _ _ _ _ _ _ _ _ ih => exact ih
  | case5 => rfl
  | case6 _ _ _ _ _ _ _ _ _ _ _ _ _ ih => rw [ih]; exact Buffer.size_overwrite _ _ _

end Entries

def blockSize (image : Buffer) (place : Nat) : Nat := image.word (place + 4) 4

def blockPage (image : Buffer) (place : Nat) : Nat := image.word place 4

def entryCount (image : Buffer) (place : Nat) : Nat :=
  (blockSize image place - blockHeaderSize) / 2

theorem blockSize_lt (image : Buffer) (place : Nat) : blockSize image place < 0x100000000 :=
  Buffer.word_lt image (place + 4) 4

theorem blockPage_lt (image : Buffer) (place : Nat) : blockPage image place < 0x100000000 :=
  Buffer.word_lt image place 4

/-- Every entry of a block lies in front of the next block. -/
theorem entries_end {image : Buffer} {place : Nat} (minimal : blockHeaderSize ≤ blockSize image place) :
    place + blockHeaderSize + 2 * entryCount image place ≤ place + blockSize image place := by
  unfold entryCount
  omega

theorem blockAt_eq {image : Buffer} (bounded : image.size ≤ wordLimit) (place : Nat) :
    blockAt image place =
      if image.size < place + blockHeaderSize then .error (.headerOutside place)
      else if minimal : blockHeaderSize ≤ blockSize image place then
        if image.size < place + blockSize image place then
          .error (.blockOutside place (blockSize image place))
        else if image.size ≤ blockPage image place then .error (.pageOutside (blockPage image place))
        else .ok ⟨blockSize image place, blockPage image place, minimal⟩
      else .error (.blockTooSmall place (UInt32.ofNat (blockSize image place))) := by
  unfold blockAt blockSize blockPage
  by_cases outside : image.size < place + blockHeaderSize
  · rw [(Extent.within?_eq_none_iff bounded).mpr outside, if_pos outside]
  · rw [Extent.within?_of_le bounded (Nat.le_of_not_lt outside), if_neg outside]
    simp only [Option.isNone_iff_eq_none, Position.upTo?_eq_none_iff, Position.within?_eq_none_iff]

/-- An accepted block lies in the image with its page, and is at least as long as its header. -/
structure BlockAccepted (image : Buffer) (place : Nat) : Prop where
  header : place + blockHeaderSize ≤ image.size
  minimal : blockHeaderSize ≤ blockSize image place
  inside : place + blockSize image place ≤ image.size
  page : blockPage image place < image.size

theorem blockAt_ok {image : Buffer} {place : Nat} {block : Block} (bounded : image.size ≤ wordLimit)
    (found : blockAt image place = .ok block) :
    BlockAccepted image place ∧ block.size = blockSize image place ∧
      block.page = blockPage image place := by
  rw [blockAt_eq bounded] at found
  split at found
  · cases found
  split at found
  · split at found
    · cases found
    split at found
    · cases found
    cases found
    exact ⟨⟨by omega, by omega, by omega, by omega⟩, rfl, rfl⟩
  · cases found

theorem blockAt_of_accepted {image : Buffer} {place : Nat} (bounded : image.size ≤ wordLimit)
    (accepted : BlockAccepted image place) :
    blockAt image place = .ok ⟨blockSize image place, blockPage image place, accepted.minimal⟩ := by
  rw [blockAt_eq bounded, if_neg (Nat.not_lt.mpr accepted.header), dif_pos accepted.minimal,
    if_neg (Nat.not_lt.mpr accepted.inside), if_neg (Nat.not_le.mpr accepted.page)]

section Blocks

variable {delta : UInt64} {last place applied : Nat} {image : Buffer}

theorem applyBlocks_finished (reached : last ≤ place) :
    applyBlocks delta last place applied image = ⟨image, .ok applied⟩ := by
  rw [applyBlocks, if_neg (Nat.not_lt.mpr reached)]

theorem applyBlocks_refused {fault : RelocationFault} (before : place < last)
    (refused : blockAt image place = .error fault) :
    applyBlocks delta last place applied image = ⟨image, .error fault⟩ := by
  rw [applyBlocks, if_pos before, refused]

theorem applyBlocks_accepted (bounded : image.size ≤ wordLimit) (before : place < last)
    (accepted : BlockAccepted image place) :
    applyBlocks delta last place applied image =
      let patched := applyEntries delta place (blockPage image place) (place + blockHeaderSize)
        (entryCount image place) applied image
      match patched.verdict with
      | .error _ => patched
      | .ok applied' =>
          applyBlocks delta last (place + blockSize image place) applied' patched.image := by
  rw [applyBlocks, if_pos before, blockAt_of_accepted bounded accepted]
  rfl

theorem size_applyBlocks : (applyBlocks delta last place applied image).image.size = image.size := by
  fun_induction applyBlocks delta last place applied image with
  | case1 => rfl
  | case2 => exact size_applyEntries
  | case3 _ _ _ _ _ _ _ _ _ ih => exact ih.trans size_applyEntries
  | case4 => rfl

end Blocks

section Table

variable {layout : Layout} {image : MappedImage}

def Layout.tableStart (layout : Layout) : Nat := layout.relocations.start.toNat

def Layout.tableLast (layout : Layout) : Nat :=
  layout.relocations.start.toNat + layout.relocations.size.toNat

theorem Layout.hasRelocations_iff :
    layout.hasRelocations = true ↔
      5 < layout.directoryCount.toNat ∧ layout.relocations.size.toNat ≠ 0 := by
  simp only [Layout.hasRelocations, Bool.and_eq_true, decide_eq_true_eq, bne_iff_ne, ne_eq,
    ← UInt32.toNat_inj, UInt32.toNat_zero]
  exact Iff.rfl

theorem relocate_absent (absent : layout.hasRelocations = false) :
    relocate layout image = ⟨image.bytes, .ok 0⟩ := by
  simp only [relocate, absent, Bool.not_false, ↓reduceIte]

theorem relocate_outside (present : layout.hasRelocations = true)
    (outside : image.bytes.size < layout.tableLast) :
    relocate layout image = ⟨image.bytes, .error (.tableOutside layout.relocations.start.toNat
      layout.relocations.size.toNat image.bytes.size)⟩ := by
  have refused := (Extent.within?_eq_none_iff (Nat.le_of_lt image.size_lt)).mpr outside
  simp only [relocate, present, Bool.not_true, Bool.false_eq_true, ↓reduceIte, MappedImage.size,
    refused, Option.isNone_none]

theorem relocate_inside (present : layout.hasRelocations = true)
    (inside : layout.tableLast ≤ image.bytes.size) :
    relocate layout image =
      applyBlocks (layout.delta image.address) layout.tableLast layout.tableStart 0 image.bytes := by
  have accepted := Extent.within?_of_le (Nat.le_of_lt image.size_lt) inside
  simp only [relocate, present, Bool.not_true, Bool.false_eq_true, ↓reduceIte, MappedImage.size,
    accepted, Option.isNone_some, Layout.tableLast, Layout.tableStart]

theorem size_relocate : (relocate layout image).image.size = image.bytes.size := by
  cases present : layout.hasRelocations with
  | false => rw [relocate_absent present]
  | true =>
      by_cases inside : layout.tableLast ≤ image.bytes.size
      · rw [relocate_inside present inside, size_applyBlocks]
      · rw [relocate_outside present (Nat.lt_of_not_le inside)]

end Table

end EfiHandoff.Image
