import EfiHandoff.Proofs.Image.Built
import EfiHandoff.Proofs.Image.Contents
import Mathlib.Data.List.Forall2
import Mathlib.Data.List.MinMax

/-!
# The sections of a built image

The section table of a built file leads to the planned sections, and to their data in the file. Filling an image from
the file works and puts every section where it was planned.
-/

set_option autoImplicit false

namespace EfiHandoff.Image

namespace PlannedSection

def last (part : PlannedSection) : Nat := part.virtualAddress.toNat + part.virtualSize.toNat

def Covers (part : PlannedSection) (place : Nat) : Prop := part.virtualAddress.toNat ≤ place ∧ place < part.last

def byteAt (part : PlannedSection) (place : Nat) : UInt8 :=
  part.data.getD (place - part.virtualAddress.toNat) 0

def Apart (left right : PlannedSection) : Prop := ∀ place, left.Covers place → ¬ right.Covers place

theorem apart_of_last_le {left right : PlannedSection} (before : left.last ≤ right.virtualAddress.toNat) :
    left.Apart right := fun _ ⟨_, inside⟩ ⟨outside, _⟩ =>
  absurd (Nat.lt_of_lt_of_le inside before) (Nat.not_lt.mpr outside)

end PlannedSection

namespace Blueprint

/-- What the section table says of a section is what was planned, and its data stand in the file. -/
structure Written (file : Buffer) (part : PlannedSection) (found : Section) : Prop where
  virtualAddress : found.virtualAddress = part.virtualAddress
  virtualSize : found.virtualSize = part.virtualSize
  rawSize : found.rawSize.toNat = part.data.size
  data : file.Holds found.rawOffset.toNat part.data.toList

/-- All that the section table says of a section is what was planned, and what its data have become in the file. -/
structure Recorded (file : Buffer) (part : PlannedSection) (offset : Nat) (found : Section) : Prop
    extends Written file part found where
  /-- The first eight bytes of the name, with NUL behind a shorter one. -/
  name : found.name = padded 8 part.name
  rawOffset : found.rawOffset.toNat = offset

def placed (plan : Blueprint) : List (PlannedSection × Nat) := plan.allSections.zip plan.rawOffsets

section Table

variable {plan : Blueprint} {file : Buffer} {layout : Layout} {part : PlannedSection} {parts : List PlannedSection}
  {filled index offset : Nat}

private theorem sectionAt_recorded (bounded : file.size ≤ wordLimit)
    (table : layout.sectionTable.toNat = builtSectionTable)
    (header : file.Holds (builtSectionTable + sectionHeaderSize * index) (sectionHeader part offset))
    (data : file.Holds offset part.data.toList) (dataSmall : part.data.size < 0x100000000)
    (offsetSmall : offset < 0x100000000) :
    ∃ found, sectionAt file layout index = .ok found ∧ Recorded file part offset found := by
  have inside := header.inside (List.ne_nil_of_length_pos (by rw [length_sectionHeader]; decide))
  rw [length_sectionHeader] at inside
  have place : index * sectionHeaderSize + layout.sectionTable.toNat =
      builtSectionTable + sectionHeaderSize * index := by
    rw [table, Nat.mul_comm, Nat.add_comm]
  have fits : builtSectionTable + sectionHeaderSize * index < wordLimit := by
    unfold sectionHeaderSize at inside ⊢
    omega
  unfold sectionHeader at header
  simp only [Buffer.holds_append, List.length_append, Bytes.length_ofNat, length_padded] at header
  obtain ⟨⟨⟨⟨name, virtualSize⟩, virtualAddress⟩, rawSize⟩, rawOffset⟩ := header
  have name := congrArg Array.toList name.slice
  rw [length_padded] at name
  have virtualSize := virtualSize.number part.virtualSize.toNat_lt
  have virtualAddress := virtualAddress.number part.virtualAddress.toNat_lt
  have rawSize := rawSize.number dataSmall
  have rawOffset := number_of_padded rawOffset (by decide) offsetSmall
  unfold sectionAt
  rw [checkedAdd_of_lt (by rwa [place]), place, Option.bind_some, Extent.within?_of_le bounded inside]
  refine ⟨_, rfl, ?_⟩
  exact {
    virtualAddress := by
      dsimp only
      rw [virtualAddress, UInt32.ofNat_toNat]
    virtualSize := by
      dsimp only
      rw [virtualSize, UInt32.ofNat_toNat]
    rawSize := by
      dsimp only
      rw [rawSize, UInt32.toNat_ofNat_of_lt' dataSmall]
    data := by
      dsimp only
      rwa [rawOffset, UInt32.toNat_ofNat_of_lt' offsetSmall]
    name := name
    rawOffset := by
      dsimp only
      rw [rawOffset, UInt32.toNat_ofNat_of_lt' offsetSmall] }

private theorem data_of_sectionData (holds : file.Holds offset (sectionData part)) :
    file.Holds offset part.data.toList :=
  holds_of_padded holds (by rw [Array.length_toList]; exact le_roundUp _ fileAlignment_pos)

/-- The section headers lead to the sections, one after the other. -/
theorem sections_recorded (bounded : file.size ≤ wordLimit) (table : layout.sectionTable.toNat = builtSectionTable)
    (headers : file.Holds (builtSectionTable + sectionHeaderSize * index)
      (List.zipWith sectionHeader parts (rawOffsetsFrom filled parts)).flatten)
    (data : file.Holds filled (parts.flatMap sectionData)) (dataSmall : ∀ part ∈ parts, part.data.size < 0x100000000)
    (offsetsSmall : ∀ offset ∈ rawOffsetsFrom filled parts, offset < 0x100000000) :
    ∃ found, (List.range' index parts.length).mapM (sectionAt file layout) = .ok found ∧
      List.Forall₂ (fun placed => Recorded file placed.1 placed.2) (parts.zip (rawOffsetsFrom filled parts)) found := by
  induction parts generalizing filled index with
  | nil => exact ⟨[], rfl, .nil⟩
  | cons part rest ih =>
      obtain ⟨small, othersSmall⟩ := List.forall_mem_cons.mp dataSmall
      rw [List.flatMap_cons, Buffer.holds_append, length_sectionData] at data
      obtain ⟨own, othersData⟩ := data
      rw [rawOffsetsFrom_cons] at headers offsetsSmall ⊢
      obtain ⟨offsetSmall, othersOffsets⟩ := List.forall_mem_cons.mp offsetsSmall
      rw [List.zipWith_cons_cons, List.flatten_cons, Buffer.holds_append, length_sectionHeader, Nat.add_assoc,
        ← Nat.mul_succ] at headers
      obtain ⟨header, othersHeaders⟩ := headers
      have own : file.Holds (if part.data.isEmpty then 0 else filled) part.data.toList := by
        split
        · next empty =>
            rw [Array.isEmpty_iff.mp empty]
            exact Buffer.holds_nil
        · exact data_of_sectionData own
      obtain ⟨first, read, written⟩ := sectionAt_recorded bounded table header own small offsetSmall
      obtain ⟨later, mapped, others⟩ := ih othersHeaders othersData othersSmall othersOffsets
      refine ⟨first :: later, ?_, .cons written others⟩
      rw [List.length_cons, List.range'_succ, List.mapM_cons, read, mapped]
      rfl

end Table

section Places

variable {plan : Blueprint} {part : PlannedSection}

theorem last_le_declaredEnd (encodable : plan.Encodable) (member : part ∈ plan.sections) :
    part.last ≤ plan.declaredEnd := by
  have whole : (part.virtualAddress + part.virtualSize).toNat = part.last := by
    rw [UInt32.toNat_add, PlannedSection.last]
    exact Nat.mod_eq_of_lt (encodable.ends part member)
  rw [declaredEnd, ← whole]
  exact List.le_max_of_le (List.mem_map_of_mem member) (Nat.le_refl _)

theorem fixups_of_table (filled : plan.relocationTable ≠ []) : plan.fixups ≠ [] := by
  intro none
  refine filled ?_
  rw [relocationTable, pages, none]
  rfl

private theorem relocationStart_toNat (encodable : plan.Encodable) (filled : plan.relocationTable ≠ []) :
    plan.relocationStart.toNat = roundUp (max plan.declaredEnd plan.alignment.toNat) plan.alignment.toNat :=
  UInt32.toNat_ofNat_of_lt' (encodable.table (fixups_of_table filled))

theorem declaredEnd_le_start (encodable : plan.Encodable) (filled : plan.relocationTable ≠ []) :
    plan.declaredEnd ≤ plan.relocationStart.toNat := by
  rw [relocationStart_toNat encodable filled]
  exact Nat.le_trans (Nat.le_max_left _ _) (le_roundUp _ (alignment_pos encodable.alignment))

theorem declaredEnd_le (encodable : plan.Encodable) : plan.declaredEnd ≤ plan.imageSize := by
  refine Nat.le_trans ?_ (imageEnd_le encodable.recordable)
  by_cases filled : plan.relocationTable = []
  · rw [imageEnd, filled]
    exact Nat.le_refl _
  · rw [imageEnd_of_table filled]
    exact Nat.le_trans (declaredEnd_le_start encodable filled) (Nat.le_add_right _ _)

theorem length_table_lt (encodable : plan.Encodable) (filled : plan.relocationTable ≠ []) :
    plan.relocationTable.length < 0x100000000 := by
  have inside := imageEnd_le encodable.recordable
  have small := encodable.imageSize
  rw [imageEnd_of_table filled] at inside
  omega

theorem last_relocationSection (encodable : plan.Encodable) (filled : plan.relocationTable ≠ []) :
    plan.relocationSection.last = plan.relocationStart.toNat + plan.relocationTable.length := by
  rw [PlannedSection.last, relocationSection, UInt32.toNat_ofNat_of_lt' (length_table_lt encodable filled)]

private theorem last_le_imageSize (encodable : plan.Encodable) (member : part ∈ plan.allSections) :
    part.last ≤ plan.imageSize := by
  rcases mem_allSections.mp member with declared | ⟨filled, rfl⟩
  · exact Nat.le_trans (last_le_declaredEnd encodable declared) (declaredEnd_le encodable)
  · rw [last_relocationSection encodable filled, ← imageEnd_of_table filled]
    exact imageEnd_le encodable.recordable

/-- The relocation section lies behind all others. -/
theorem allSections_apart (encodable : plan.Encodable)
    (apart : plan.sections.Pairwise PlannedSection.Apart) : plan.allSections.Pairwise PlannedSection.Apart := by
  rcases plan.allSections_eq with ⟨-, same⟩ | ⟨filled, same⟩
  · rwa [same]
  · rw [same, List.pairwise_append]
    refine ⟨apart, List.pairwise_singleton _ _, ?_⟩
    intro part member other behind
    rw [List.mem_singleton.mp behind]
    exact PlannedSection.apart_of_last_le
      (Nat.le_trans (last_le_declaredEnd encodable member) (declaredEnd_le_start encodable filled))

end Places

section Filling

variable {plan : Blueprint} {file image : Buffer} {part : PlannedSection} {found : Section}
  {parts : List PlannedSection} {table : List Section} {below : Nat → UInt8} {place : Nat}

namespace Written

theorem copySize (written : Written file part found) :
    found.copySize.toNat = min part.virtualSize.toNat part.data.size := by
  rw [Section.copySize, UInt32.min_def, written.virtualSize, ← written.rawSize]
  split
  · next below => exact (Nat.min_eq_left below).symm
  · next above => exact (Nat.min_eq_right (Nat.le_of_lt (Nat.lt_of_not_le above))).symm

theorem fits (written : Written file part found) {size : Nat} (inside : part.last ≤ size) :
    found.Fits file size where
  image := by
    rw [written.virtualAddress, written.virtualSize]
    exact inside
  file := by
    intro copied
    rw [written.copySize] at copied ⊢
    have filled : part.data.toList ≠ [] := List.ne_nil_of_length_pos (by rw [Array.length_toList]; omega)
    have room := written.data.inside filled
    rw [Array.length_toList] at room
    omega

theorem covers_iff (written : Written file part found) : found.covers place = true ↔ part.Covers place := by
  rw [Section.covers_iff, written.virtualAddress, written.virtualSize]
  rfl

theorem byteAt (written : Written file part found) (covered : part.Covers place) :
    found.byteAt file place = part.byteAt place := by
  obtain ⟨start, before⟩ := covered
  unfold PlannedSection.last at before
  unfold Section.byteAt PlannedSection.byteAt
  rw [written.copySize, written.virtualAddress]
  dsimp only
  by_cases data : place - part.virtualAddress.toNat < part.data.size
  · rw [if_pos (by omega), written.data.getD (by rwa [Array.length_toList])]
    simp
  · rw [if_neg (by omega)]
    simp [Nat.le_of_not_lt data]

end Written

private theorem fits_of_last_le {size : Nat} (written : List.Forall₂ (Written file) parts table)
    (inside : ∀ part ∈ parts, part.last ≤ size) : ∀ found ∈ table, found.Fits file size := by
  induction written with
  | nil => exact List.forall_mem_nil _
  | cons first _ ih =>
      obtain ⟨own, others⟩ := List.forall_mem_cons.mp inside
      exact List.forall_mem_cons.mpr ⟨first.fits own, ih others⟩

private theorem overlay_outside (written : List.Forall₂ (Written file) parts table)
    (outside : ∀ part ∈ parts, ¬ part.Covers place) : overlay file table below place = below place := by
  induction written generalizing below with
  | nil => rfl
  | cons first _ ih =>
      obtain ⟨own, others⟩ := List.forall_mem_cons.mp outside
      rw [overlay_cons, ih others, if_neg (mt first.covers_iff.mp own)]

/-- Where no two sections overlap, each place shows the section that it belongs to. -/
theorem overlay_inside (written : List.Forall₂ (Written file) parts table)
    (apart : parts.Pairwise PlannedSection.Apart) (member : part ∈ parts) (covered : part.Covers place) :
    overlay file table below place = part.byteAt place := by
  induction written generalizing below with
  | nil => cases member
  | cons first others ih =>
      obtain ⟨own, later⟩ := List.pairwise_cons.mp apart
      rw [overlay_cons]
      cases member with
      | head =>
          rw [overlay_outside others fun other listed => own other listed place covered,
            if_pos (first.covers_iff.mpr covered), first.byteAt covered]
      | tail _ listed => exact ih later listed

theorem sections_build_recorded (recordable : plan.Recordable) :
    ∃ table, Image.sections plan.build.file plan.layout = .ok table ∧
      List.Forall₂ (fun placed => Recorded plan.build.file placed.1 placed.2) plan.placed table := by
  have counted : plan.layout.sectionCount.toNat = plan.allSections.length :=
    UInt16.toNat_ofNat_of_lt' recordable.count
  unfold Image.sections
  rw [counted]
  exact sections_recorded (size_build_le recordable) rfl (build_headersWritten plan).sectionHeaders
    (build_holds plan).2 (fun part => recordable.allData) recordable.offsets

theorem placed_fst (plan : Blueprint) : plan.placed.map Prod.fst = plan.allSections :=
  List.map_fst_zip (Nat.le_of_eq (length_rawOffsetsFrom _ _).symm)

theorem sections_build (encodable : plan.Encodable) :
    ∃ table, Image.sections plan.build.file plan.layout = .ok table ∧
      List.Forall₂ (Written plan.build.file) plan.allSections table := by
  obtain ⟨table, read, recorded⟩ := sections_build_recorded encodable.recordable
  refine ⟨table, read, ?_⟩
  rw [← placed_fst plan]
  exact List.forall₂_map_left_iff.mpr (recorded.imp fun _ _ found => found.toWritten)

/-- A built file is put into an image of its size, and every section is where it was planned. -/
theorem load_build (encodable : plan.Encodable) (apart : plan.sections.Pairwise PlannedSection.Apart)
    (room : image.size = plan.imageSize) :
    ∃ headed filled, copyHeaders plan.build.file plan.layout image = .ok headed ∧
      (loadSections plan.build.file plan.layout headed).result = .ok filled ∧ filled.size = plan.imageSize ∧
      ∀ part ∈ plan.allSections, ∀ place, part.Covers place → filled[place]? = some (part.byteAt place) := by
  have headersSize : plan.layout.headersSize.toNat = plan.headersSize :=
    UInt64.toNat_ofNat_of_lt' (Nat.lt_of_le_of_lt encodable.recordable.headersSize_le
      (Nat.lt_trans encodable.imageSize (by decide)))
  obtain ⟨headed, copied⟩ : ∃ headed, copyHeaders plan.build.file plan.layout image = .ok headed := by
    refine copyHeaders_of_fits ?_ ?_
    · rw [headersSize, size_build]
      exact Nat.le_add_right _ _
    · rw [headersSize, room]
      exact encodable.recordable.headersSize_le
  obtain ⟨-, -, size, -⟩ := copyHeaders_ok copied
  rw [room] at size
  obtain ⟨table, read, written⟩ := sections_build encodable
  have fits := fits_of_last_le written fun part => last_le_imageSize encodable
  rw [← size] at fits
  obtain ⟨filled, loaded⟩ := loadSectionsFrom_of_fits read fits
  refine ⟨headed, filled, copied, loaded, ?_⟩
  obtain ⟨again, reread, -, kept, shows⟩ := loadSectionsFrom_ok loaded
  obtain rfl : table = again := Except.ok.inj (read.symm.trans reread)
  refine ⟨kept.trans size, ?_⟩
  intro part member place covered
  have inside : place < filled.size := by
    rw [kept, size]
    exact Nat.lt_of_lt_of_le covered.2 (last_le_imageSize encodable member)
  rw [shows _ (hasBytes_getD headed) place inside,
    overlay_inside written (allSections_apart encodable apart) member covered]

end Filling

end Blueprint

end EfiHandoff.Image
