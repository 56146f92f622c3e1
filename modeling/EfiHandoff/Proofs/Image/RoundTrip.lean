import EfiHandoff.Proofs.Image.BuiltSections
import EfiHandoff.Proofs.Relocation.Beside
import EfiHandoff.Proofs.Relocation.Encoding
import Mathlib.Data.List.Pairwise

/-!
# From a blueprint to a relocated image

A file that was built from a blueprint is read, loaded and relocated as it was planned, to any address: each planned
value is moved by the distance, and all else of the sections stays what it was.
-/

set_option autoImplicit false

namespace EfiHandoff.Image

instance (part : PlannedSection) (place : Nat) : Decidable (part.Covers place) :=
  inferInstanceAs (Decidable (part.virtualAddress.toNat ≤ place ∧ place < part.last))

instance : Std.Symm PlannedSection.Apart := ⟨fun _ _ apart place covered other => apart place other covered⟩

namespace Blueprint

/-- The byte that is planned for a place of the image, zero where no section is. -/
def byteAt (plan : Blueprint) (place : Nat) : UInt8 :=
  match plan.allSections.find? (·.Covers place) with
  | some part => part.byteAt place
  | none => 0

def wordAt (plan : Blueprint) (place width : Nat) : Nat :=
  Bytes.littleEndian ((List.range width).map fun lane => plan.byteAt (place + lane))

/-- A plan in which the sections have no byte in common, and the values to be moved lie in the sections and have no
byte in common either. -/
structure Consistent (plan : Blueprint) : Prop where
  encodable : plan.Encodable
  sections : plan.sections.Pairwise PlannedSection.Apart
  kinds : ∀ fixup ∈ plan.fixups, fixup.1 = .dir64 ∨ fixup.1 = .highLow
  inside : ∀ fixup ∈ plan.fixups, ∀ lane < fixup.1.width, ∃ part ∈ plan.sections, part.Covers (fixup.2.toNat + lane)
  fixups : (plan.fixups.map plannedFixup).Pairwise Fixup.Beside

def Shown (plan : Blueprint) (image : Buffer) : Prop :=
  ∀ part ∈ plan.allSections, ∀ place, part.Covers place → image[place]? = some (part.byteAt place)

structure Moved (plan : Blueprint) (address : UInt64) (image : Buffer) : Prop where
  values : ∀ fixup ∈ plan.fixups, image.word fixup.2.toNat fixup.1.width =
    (plan.wordAt fixup.2.toNat fixup.1.width + (address - plan.imageBase).toNat) % 256 ^ fixup.1.width
  others : ∀ part ∈ plan.allSections, ∀ place, part.Covers place →
    (∀ fixup ∈ plan.fixups, place < fixup.2.toNat ∨ fixup.2.toNat + fixup.1.width ≤ place) →
      image[place]? = some (part.byteAt place)

variable {plan : Blueprint} {image : Buffer} {part : PlannedSection} {place : Nat}

private theorem byteAt_of_covers (apart : plan.allSections.Pairwise PlannedSection.Apart)
    (member : part ∈ plan.allSections) (covered : part.Covers place) : plan.byteAt place = part.byteAt place := by
  unfold byteAt
  cases found : plan.allSections.find? (·.Covers place) with
  | none => exact absurd (decide_eq_true covered) (List.find?_eq_none.mp found part member)
  | some other =>
      have also : other.Covers place := by simpa using List.find?_some found
      by_cases same : other = part
      · rw [same]
      · have distinct := apart.forall (List.mem_of_find?_eq_some found) member same
        exact absurd covered (distinct place also)

theorem relocationTable_eq_nil_iff : plan.relocationTable = [] ↔ plan.fixups = [] := by
  constructor
  · intro empty
    refine List.eq_nil_iff_forall_not_mem.mpr fun fixup member => ?_
    have blocks := List.flatMap_eq_nil_iff.mp empty (pageOf fixup.2) (mem_pages.mpr ⟨fixup, member, rfl⟩)
    have length := length_block plan (pageOf fixup.2)
    rw [blocks, blockHeaderSize, List.length_nil] at length
    omega
  · intro none
    by_contra filled
    exact fixups_of_table filled none

namespace Consistent

theorem addend (consistent : plan.Consistent) {fixup : FixupKind × UInt32} (member : fixup ∈ plan.fixups)
    (delta : UInt64) : fixup.1.addend delta = delta.toNat := by
  rcases consistent.kinds fixup member with wide | narrow
  · rw [wide]
    rfl
  · rw [narrow]
    rfl

theorem patches (consistent : plan.Consistent) {fixup : FixupKind × UInt32} (member : fixup ∈ plan.fixups) :
    fixup.1 ≠ .absolute := by
  rcases consistent.kinds fixup member with wide | narrow
  · rw [wide]
    decide
  · rw [narrow]
    decide

theorem last_le_declaredEnd (consistent : plan.Consistent) {fixup : FixupKind × UInt32}
    (member : fixup ∈ plan.fixups) : (plannedFixup fixup).last ≤ plan.declaredEnd := by
  have width := FixupKind.width_pos (consistent.patches member)
  obtain ⟨part, declared, -, before⟩ := consistent.inside fixup member (fixup.1.width - 1) (by omega)
  have below := Blueprint.last_le_declaredEnd consistent.encodable declared
  unfold plannedFixup Fixup.last
  dsimp only
  omega

theorem patching (consistent : plan.Consistent) : plan.Patching plan.imageSize where
  kinds := fun _ => consistent.patches
  inside := fun _ member =>
    Nat.le_trans (consistent.last_le_declaredEnd member) (declaredEnd_le consistent.encodable)

end Consistent

theorem Shown.table (shown : plan.Shown image) (encodable : plan.Encodable) (filled : plan.relocationTable ≠ []) :
    image.Holds plan.relocationStart.toNat plan.relocationTable := by
  intro lane bound
  have member : plan.relocationSection ∈ plan.allSections := mem_allSections.mpr (.inr ⟨filled, rfl⟩)
  have covered : plan.relocationSection.Covers (plan.relocationStart.toNat + lane) := by
    refine ⟨Nat.le_add_right _ _, ?_⟩
    rw [last_relocationSection encodable filled]
    omega
  rw [shown _ member _ covered]
  unfold PlannedSection.byteAt relocationSection
  simp [bound]

private theorem scan_absent (absent : plan.relocationTable = []) : scan plan.layout image = ⟨[], [], none⟩ := by
  have none : plan.layout.hasRelocations = false := by
    unfold Layout.hasRelocations layout relocations
    rw [absent]
    rfl
  rw [scan, none]
  rfl

private theorem scan_table (encodable : plan.Encodable) (size : image.size = plan.imageSize)
    (filled : plan.relocationTable ≠ []) : scan plan.layout image =
      scanBlocks image (plan.relocationStart.toNat + plan.relocationTable.length) plan.relocationStart.toNat := by
  have table : plan.layout.relocations = ⟨plan.relocationStart, UInt32.ofNat plan.relocationTable.length⟩ := by
    unfold layout relocations
    rw [if_neg (by simpa using filled)]
  have length : plan.layout.relocations.size.toNat = plan.relocationTable.length := by
    rw [table]
    exact UInt32.toNat_ofNat_of_lt' (length_table_lt encodable filled)
  have start : plan.layout.tableStart = plan.relocationStart.toNat := by rw [Layout.tableStart, table]
  have last : plan.layout.tableLast = plan.relocationStart.toNat + plan.relocationTable.length := by
    rw [Layout.tableLast, length, table]
  have present : plan.layout.hasRelocations = true := by
    rw [Layout.hasRelocations_iff, length]
    exact ⟨show 5 < (UInt64.ofNat builtDirectories).toNat by decide, mt List.length_eq_zero_iff.mp filled⟩
  have room := imageEnd_le encodable.recordable
  rw [imageEnd_of_table filled, ← last, ← size] at room
  rw [scan, present, ← last, ← start]
  simp only [Bool.not_true, Bool.false_eq_true, ↓reduceIte, Nat.not_lt.mpr room]

/-- The table of an image that shows its sections lists the planned fixups, and none of them touches it. -/
theorem Shown.scan (shown : plan.Shown image) (consistent : plan.Consistent) (size : image.size = plan.imageSize) :
    (scan plan.layout image).fault = none ∧ (scan plan.layout image).Apart ∧
      (scan plan.layout image).fixups.Perm (plan.fixups.map plannedFixup) := by
  have encodable := consistent.encodable
  by_cases empty : plan.relocationTable = []
  · rw [scan_absent empty, relocationTable_eq_nil_iff.mp empty]
    exact ⟨rfl, List.forall_mem_nil _, .nil⟩
  · rw [scan_table encodable size empty]
    obtain ⟨found, finds, same⟩ := table_finds (size ▸ consistent.patching) (size ▸ encodable.imageSize)
      (shown.table encodable empty) rfl
    refine ⟨finds.fault, ?_, finds.fixups ▸ same⟩
    intro fixup member reading read
    rw [finds.fixups, same.mem_iff, List.mem_map] at member
    obtain ⟨planned, listed, rfl⟩ := member
    exact .inl (Nat.le_trans (consistent.last_le_declaredEnd listed)
      (Nat.le_trans (declaredEnd_le_start encodable empty) (finds.read reading read)))

theorem Shown.word (shown : plan.Shown image) (consistent : plan.Consistent) {fixup : FixupKind × UInt32}
    (member : fixup ∈ plan.fixups) :
    image.word fixup.2.toNat fixup.1.width = plan.wordAt fixup.2.toNat fixup.1.width := by
  refine Buffer.word_of_bytes fun lane bound => ?_
  obtain ⟨part, declared, covered⟩ := consistent.inside fixup member lane bound
  have listed := mem_allSections.mpr (.inl declared)
  rw [shown part listed _ covered,
    byteAt_of_covers (allSections_apart consistent.encodable consistent.sections) listed covered]

theorem Shown.moved (shown : plan.Shown image) (consistent : plan.Consistent) (size : image.size = plan.imageSize)
    {found : List Fixup} (same : found.Perm (plan.fixups.map plannedFixup)) (address : UInt64) :
    plan.Moved address (applyFixups (plan.layout.delta address) found image) where
  values := by
    intro fixup member
    have listed : plannedFixup fixup ∈ found := same.mem_iff.mpr (List.mem_map_of_mem member)
    have beside := (same.pairwise_iff Fixup.Beside.symm).mpr consistent.fixups
    have inside : (plannedFixup fixup).last ≤ image.size := size ▸ consistent.patching.inside fixup member
    have patched : (applyFixups (plan.layout.delta address) found image).word fixup.2.toNat fixup.1.width = _ :=
      word_applyFixups beside listed inside
    rw [patched, plannedFixup, shown.word consistent member, consistent.addend member]
    rfl
  others := by
    intro part member place covered outside
    rw [applyFixups_frame ?_, shown part member place covered]
    intro fixup listed
    rw [same.mem_iff, List.mem_map] at listed
    obtain ⟨planned, fixupMember, rfl⟩ := listed
    exact outside planned fixupMember

/-- What is built is read, loaded into any bytes and moved to any address as it was planned. -/
theorem build_round_trip (plan : Blueprint) (consistent : plan.Consistent) :
    readLayout plan.build.file = .ok plan.layout ∧
      ∀ image : Buffer, image.size = plan.build.imageSize.toNat →
        ∃ headed filled, copyHeaders plan.build.file plan.layout image = .ok headed ∧
          (loadSections plan.build.file plan.layout headed).result = .ok filled ∧ filled.size = image.size ∧
          (scan plan.layout filled).fault = none ∧
          (scan plan.layout filled).fixups.Perm (plan.fixups.map plannedFixup) ∧
          ∀ mapped : MappedImage, mapped.bytes = filled →
            ∃ bytes, relocate plan.layout mapped = ⟨bytes, .ok plan.fixups.length⟩ ∧
              plan.Moved mapped.address bytes := by
  have encodable := consistent.encodable
  refine ⟨readLayout_build encodable.recordable, ?_⟩
  intro image room
  have size : plan.build.imageSize.toNat = plan.imageSize := UInt32.toNat_ofNat_of_lt' encodable.imageSize
  obtain ⟨headed, filled, copied, loaded, full, shown⟩ :=
    load_build encodable consistent.sections (room.trans size)
  have shown : plan.Shown filled := shown
  obtain ⟨finished, apart, same⟩ := shown.scan consistent full
  refine ⟨headed, filled, copied, loaded, full.trans (room.trans size).symm, finished, same, ?_⟩
  rintro mapped rfl
  refine ⟨_, ?_, shown.moved consistent full same mapped.address⟩
  rw [relocate_scan apart, Scan.verdict_of_finished finished, same.length_eq, List.length_map, Nat.zero_add]

/-- A plan with a value that crosses a page, one that overflows, and a section without any place. -/
def crossing : Blueprint where
  sections := [
    ⟨".text".toUTF8.data.toList, 0x1000, 0x10, #[0x90, 0xc3]⟩,
    ⟨".data".toUTF8.data.toList, 0x1ff0, 0x20,
      #[0, 0, 0, 0, 0x78, 0x56, 0x34, 0x12, 0, 0, 0, 0, 0x10, 0x20, 0, 0x40, 1, 0, 0, 0, 0, 0, 0, 0,
        0xf8, 0xff, 0xff, 0xff]⟩,
    ⟨".bss".toUTF8.data.toList, 0x3000, 0, #[]⟩]
  fixups := [(.highLow, 0x2008), (.dir64, 0x1ffc), (.highLow, 0x1ff4)]

private theorem crossing_consistent : crossing.Consistent where
  encodable := {
    machine := .inl rfl
    alignment := by decide
    count := by decide +kernel
    ends := by decide +kernel
    table := fun _ => by decide +kernel
    imageSize := by decide +kernel
    data := by decide +kernel
    offsets := by decide +kernel }
  sections := by
    have ascending : crossing.sections.Pairwise fun left right => left.last ≤ right.virtualAddress.toNat := by
      decide +kernel
    exact ascending.imp PlannedSection.apart_of_last_le
  kinds := by decide
  inside := by decide +kernel
  fixups := by decide +kernel

theorem build_round_trip_crossing :
    crossing.Consistent ∧ ∃ headed filled,
      copyHeaders crossing.build.file crossing.layout (Array.replicate 0x4000 0xff) = .ok headed ∧
        (loadSections crossing.build.file crossing.layout headed).result = .ok filled ∧
        ∃ mapped : MappedImage, mapped.bytes = filled ∧ mapped.address = 0x150000000 ∧
          ∃ bytes, relocate crossing.layout mapped = ⟨bytes, .ok 3⟩ ∧
            bytes.word 0x1ffc 8 = 0x150002010 ∧ bytes.word 0x2008 4 = 0x0ffffff8 := by
  obtain ⟨-, loads⟩ := build_round_trip crossing crossing_consistent
  have size : crossing.build.imageSize.toNat = 0x4000 := by decide +kernel
  obtain ⟨headed, filled, copied, loaded, full, -, -, moves⟩ :=
    loads (Array.replicate 0x4000 0xff) (by rw [Array.size_replicate, size])
  rw [Array.size_replicate] at full
  refine ⟨crossing_consistent, headed, filled, copied, loaded, ?_⟩
  obtain ⟨bytes, relocated, moved⟩ := moves ⟨filled, 0x150000000, by rw [full]; decide⟩ rfl
  have wide : (crossing.wordAt 0x1ffc 8 + (0x150000000 - crossing.imageBase).toNat) % 256 ^ 8 = 0x150002010 := by
    decide +kernel
  have narrow : (crossing.wordAt 0x2008 4 + (0x150000000 - crossing.imageBase).toNat) % 256 ^ 4 = 0x0ffffff8 := by
    decide +kernel
  exact ⟨_, rfl, rfl, bytes, relocated, (moved.values (.dir64, 0x1ffc) (by decide)).trans wide,
    (moved.values (.highLow, 0x2008) (by decide)).trans narrow⟩

end Blueprint

end EfiHandoff.Image
