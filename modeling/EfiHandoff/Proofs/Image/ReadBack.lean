import EfiHandoff.Proofs.Image.LoadFailures
import EfiHandoff.Proofs.Image.RoundTrip

/-!
# What a built file says of itself

Whatever the sections of a blueprint are, overlapping or empty or shorter than their data, reading the built file gives
back the numbers the builder reports, and each section header leads to the data of its section. The data of different
sections stand apart in the file, each at a multiple of the file alignment and behind the headers.
-/

set_option autoImplicit false

namespace EfiHandoff.Image.Blueprint

structure ReadBack (plan : Blueprint) (layout : Layout) : Prop where
  base : layout.preferredBase = plan.imageBase
  entry : layout.entry.toNat = plan.entry.toNat
  imageSize : layout.imageSize.toNat = plan.build.imageSize.toNat
  headersSize : layout.headersSize.toNat = plan.headersSize
  relocations : layout.relocations = plan.build.relocations
  sectionTable : layout.sectionTable.toNat = plan.build.sectionTable
  directories : layout.directoryCount.toNat = 16
  alignment : layout.alignment = plan.alignment
  /-- Where there are fixups, their table is one more section behind those that were declared. -/
  sections : plan.allSections = plan.sections ++ if plan.fixups = [] then [] else [plan.relocationSection]
  counted : layout.sectionCount.toNat = plan.sections.length + if plan.fixups = [] then 0 else 1
  records : ∀ index part, plan.allSections[index]? = some part → ∃ offset found,
    plan.build.rawOffsets[index]? = some offset ∧ sectionAt plan.build.file layout index = .ok found ∧
      Recorded plan.build.file part offset found

/-- How the data of the sections stand in the built file. -/
structure DataPlaced (plan : Blueprint) : Prop where
  empty : ∀ entry ∈ plan.placed, entry.1.data = #[] → entry.2 = 0
  filled : ∀ entry ∈ plan.placed, entry.1.data ≠ #[] → entry.2 % fileAlignment = 0 ∧
    plan.headersSize ≤ entry.2 ∧ entry.2 + entry.1.data.size ≤ plan.build.file.size
  /-- Of two sections with data the one that comes first in the table ends before the other begins. -/
  apart : plan.placed.Pairwise fun left right => left.1.data ≠ #[] → right.1.data ≠ #[] →
    left.2 + left.1.data.size ≤ right.2

section Offsets

variable {filled : Nat} {parts : List PlannedSection} {entry : PlannedSection × Nat}

private theorem roundUp_mod (value unit : Nat) : roundUp value unit % unit = 0 := Nat.mul_mod_left _ _

private theorem aligned_behind {length : Nat} (aligned : filled % fileAlignment = 0) :
    (filled + roundUp length fileAlignment) % fileAlignment = 0 := by
  rw [Nat.add_mod, aligned, roundUp_mod]
  rfl

private theorem offset_of_empty (member : entry ∈ parts.zip (rawOffsetsFrom filled parts))
    (empty : entry.1.data = #[]) :
    entry.2 = 0 := by
  induction parts generalizing filled with
  | nil => cases member
  | cons part rest ih =>
      rw [rawOffsetsFrom_cons, List.zip_cons_cons] at member
      cases member with
      | head => exact if_pos (Array.isEmpty_iff.mpr empty)
      | tail _ later => exact ih later

/-- What comes after the place up to which the file is filled is put behind it, and stays aligned. -/
theorem offset_of_filled (aligned : filled % fileAlignment = 0)
    (member : entry ∈ parts.zip (rawOffsetsFrom filled parts)) (data : entry.1.data ≠ #[]) :
    entry.2 % fileAlignment = 0 ∧ filled ≤ entry.2 ∧
      entry.2 + entry.1.data.size ≤ filled + (parts.flatMap sectionData).length := by
  induction parts generalizing filled with
  | nil => cases member
  | cons part rest ih =>
      have room := le_roundUp part.data.size fileAlignment_pos
      rw [rawOffsetsFrom_cons, List.zip_cons_cons] at member
      rw [List.flatMap_cons, List.length_append, length_sectionData]
      cases member with
      | head =>
          dsimp only at data ⊢
          rw [if_neg (by simpa using data)]
          exact ⟨aligned, Nat.le_refl _, by omega⟩
      | tail _ later =>
          obtain ⟨multiple, behind, inside⟩ := ih (aligned_behind aligned) later
          exact ⟨multiple, by omega, by omega⟩

private theorem offsets_apart (aligned : filled % fileAlignment = 0) :
    (parts.zip (rawOffsetsFrom filled parts)).Pairwise fun left right =>
      left.1.data ≠ #[] → right.1.data ≠ #[] → left.2 + left.1.data.size ≤ right.2 := by
  induction parts generalizing filled with
  | nil => exact .nil
  | cons part rest ih =>
      have room := le_roundUp part.data.size fileAlignment_pos
      rw [rawOffsetsFrom_cons, List.zip_cons_cons]
      refine .cons ?_ (ih (aligned_behind aligned))
      intro entry member own other
      obtain ⟨-, behind, -⟩ := offset_of_filled (aligned_behind aligned) member other
      dsimp only at own ⊢
      rw [if_neg (by simpa using own)]
      omega

end Offsets

variable {plan : Blueprint}

theorem dataPlaced (plan : Blueprint) : plan.DataPlaced := by
  have aligned : plan.headersSize % fileAlignment = 0 := roundUp_mod _ _
  refine ⟨fun _ => offset_of_empty, fun entry member data => ?_, offsets_apart aligned⟩
  obtain ⟨multiple, behind, inside⟩ := offset_of_filled aligned member data
  rw [size_build]
  exact ⟨multiple, behind, inside⟩

private theorem entry_of_section {part : PlannedSection} (member : part ∈ plan.allSections) :
    ∃ offset, (part, offset) ∈ plan.placed := by
  rw [← placed_fst plan] at member
  obtain ⟨⟨_, offset⟩, found, rfl⟩ := List.mem_map.mp member
  exact ⟨offset, found⟩

private theorem entry_of_offset {offset : Nat} (member : offset ∈ plan.rawOffsets) :
    ∃ part, (part, offset) ∈ plan.placed := by
  have snd : plan.placed.map Prod.snd = plan.rawOffsets :=
    List.map_snd_zip (Nat.le_of_eq (length_rawOffsetsFrom _ _))
  rw [← snd] at member
  obtain ⟨⟨part, _⟩, found, rfl⟩ := List.mem_map.mp member
  exact ⟨part, found⟩

/-- In a file that is addressed with 32 bits all offsets and lengths fit into their fields. -/
theorem recordable_of_size (machine : plan.machine = machineAmd64 ∨ plan.machine = machineArm64)
    (alignment : isPowerOfTwo plan.alignment = true) (count : plan.allSections.length < 0x10000)
    (imageSize : plan.imageSize < 0x100000000) (size : plan.build.file.size ≤ 0x100000000) : plan.Recordable where
  machine := machine
  alignment := alignment
  count := count
  imageSize := imageSize
  data := by
    intro part member
    obtain ⟨offset, found⟩ := entry_of_section (mem_allSections.mpr (.inl member))
    by_cases empty : part.data = #[]
    · rw [empty]
      decide
    · obtain ⟨-, behind, inside⟩ := plan.dataPlaced.filled _ found empty
      have headers := sectionTable_le plan
      have table : builtSectionTable = 328 := rfl
      dsimp only at behind inside
      omega
  offsets := by
    intro offset member
    obtain ⟨part, found⟩ := entry_of_offset member
    by_cases empty : part.data = #[]
    · have zero : offset = 0 := plan.dataPlaced.empty _ found empty
      rw [zero]
      decide
    · obtain ⟨-, -, inside⟩ := plan.dataPlaced.filled _ found empty
      have filled := Array.size_pos_iff.mpr empty
      dsimp only at inside
      omega

private theorem allSections_of_fixups (plan : Blueprint) :
    plan.allSections = plan.sections ++ if plan.fixups = [] then [] else [plan.relocationSection] := by
  obtain ⟨empty, declared⟩ | ⟨filled, extended⟩ := plan.allSections_eq
  · rw [if_pos (relocationTable_eq_nil_iff.mp empty), declared, List.append_nil]
  · rw [if_neg (mt relocationTable_eq_nil_iff.mpr filled), extended]

theorem record_at (recordable : plan.Recordable) {index : Nat} {part : PlannedSection}
    (listed : plan.allSections[index]? = some part) : ∃ offset found,
      plan.build.rawOffsets[index]? = some offset ∧ sectionAt plan.build.file plan.layout index = .ok found ∧
        Recorded plan.build.file part offset found := by
  obtain ⟨counted, rfl⟩ := List.getElem?_eq_some_iff.mp listed
  have paired : plan.rawOffsets.length = plan.allSections.length := length_rawOffsetsFrom _ _
  have number : plan.layout.sectionCount.toNat = plan.allSections.length :=
    UInt16.toNat_ofNat_of_lt' recordable.count
  obtain ⟨table, read, recorded⟩ := sections_build_recorded recordable
  obtain ⟨rfl, -⟩ := mapM_sectionAt_ok read
  have place : index < plan.placed.length := by
    rw [placed, List.length_zip]
    omega
  have row := recorded.get place (recorded.length_eq ▸ place)
  simp only [placed, List.get_eq_getElem, List.getElem_zip, List.getElem_map, List.getElem_range', Nat.zero_add,
    Nat.one_mul] at row
  exact ⟨_, _, List.getElem?_eq_getElem (paired ▸ counted),
    sectionAt_of_readLayout (readLayout_build recordable) (number ▸ counted), row⟩

theorem readBack (recordable : plan.Recordable) : plan.ReadBack plan.layout where
  base := rfl
  entry := UInt64.toNat_ofNat_of_lt' (Nat.lt_trans plan.entry.toNat_lt (by decide))
  imageSize := by
    have small := recordable.imageSize
    change (UInt64.ofNat plan.imageSize).toNat = (UInt32.ofNat plan.imageSize).toNat
    rw [UInt32.toNat_ofNat_of_lt' small, UInt64.toNat_ofNat_of_lt' (Nat.lt_trans small (by decide))]
  headersSize := UInt64.toNat_ofNat_of_lt' (Nat.lt_of_le_of_lt recordable.headersSize_le
    (Nat.lt_trans recordable.imageSize (by decide)))
  relocations := rfl
  sectionTable := rfl
  directories := rfl
  alignment := rfl
  sections := plan.allSections_of_fixups
  counted := by
    change (UInt16.ofNat plan.allSections.length).toNat = _
    rw [UInt16.toNat_ofNat_of_lt' recordable.count, allSections_of_fixups, List.length_append]
    split <;> rfl
  records _ _ := record_at recordable

/-- The headers and the section table of a built file are read back as the builder reports them, and the data of the
sections stand apart from each other and from the headers. -/
theorem build_reads_back (plan : Blueprint) (recordable : plan.Recordable) :
    (∃ layout, readLayout plan.build.file = .ok layout ∧ plan.ReadBack layout) ∧ plan.DataPlaced :=
  ⟨⟨plan.layout, readLayout_build recordable, readBack recordable⟩, plan.dataPlaced⟩

/-- A plan with more section headers than one alignment unit has room for: two sections overlap, one is empty, one has
data beyond its size, one has a name that is too long. -/
def crowded : Blueprint where
  machine := machineArm64
  sections := [
    ⟨".text".toUTF8.data.toList, 0x1000, 0x20, #[0x90, 0xc3]⟩,
    ⟨".overlap".toUTF8.data.toList, 0x1010, 0x20, #[1, 2, 3]⟩,
    ⟨".bss".toUTF8.data.toList, 0x3000, 0x100, #[]⟩,
    ⟨".longname".toUTF8.data.toList, 0x2000, 2, #[4, 5, 6, 7]⟩,
    ⟨[], 0x2000, 0, #[8]⟩]
  fixups := [(.dir64, 0x1010), (.highLow, 0x2ffe)]

theorem build_reads_back_crowded :
    crowded.Recordable ∧ crowded.DataPlaced ∧
      ∃ layout, readLayout crowded.build.file = .ok layout ∧ layout.sectionCount.toNat = 6 ∧
        layout.headersSize.toNat = 0x400 ∧ layout.imageSize.toNat = 0x5000 ∧
        ∃ found, sectionAt crowded.build.file layout 3 = .ok found ∧
          found.name = ".longnam".toUTF8.data.toList ∧ found.rawOffset.toNat = 0x800 ∧
          crowded.build.file.Holds found.rawOffset.toNat [4, 5, 6, 7] := by
  have recordable : crowded.Recordable := recordable_of_size (.inr rfl) (by decide) (by decide +kernel)
    (by decide +kernel) (by decide +kernel)
  obtain ⟨⟨layout, read, back⟩, placed⟩ := build_reads_back crowded recordable
  have listed : crowded.allSections[3]? =
      some ⟨".longname".toUTF8.data.toList, 0x2000, 2, #[4, 5, 6, 7]⟩ := by decide +kernel
  have third : crowded.build.rawOffsets[3]? = some 0x800 := by decide +kernel
  obtain ⟨offset, found, same, record, recorded⟩ := back.records 3 _ listed
  obtain rfl : 0x800 = offset := Option.some.inj (third.symm.trans same)
  refine ⟨recordable, placed, layout, read, back.counted, ?_, ?_, found, record, ?_, recorded.rawOffset, recorded.data⟩
  · rw [back.headersSize]
    decide +kernel
  · rw [back.imageSize]
    decide +kernel
  · rw [recorded.name]
    decide +kernel

end EfiHandoff.Image.Blueprint
