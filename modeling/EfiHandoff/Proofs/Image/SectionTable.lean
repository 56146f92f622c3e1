import EfiHandoff.Proofs.Image.Contents

/-!
# The section table and the bytes of an image

The table of a file lists a section under each number. When headers and sections are in place, the last section in
table order that covers a byte decides it, then the headers, and what none of them reaches is left alone.
-/

set_option autoImplicit false

namespace EfiHandoff.Image

def Layout.headerPlace (layout : Layout) (index : Nat) : Nat :=
  layout.sectionTable.toNat + sectionHeaderSize * index

/-- What the table says about section number `index`, missing bytes counting as zero. -/
def listedSection (file : Buffer) (layout : Layout) (index : Nat) : Section where
  name := (file.slice (layout.headerPlace index) 8).toList
  virtualSize := UInt32.ofNat (file.word (layout.headerPlace index + 8) 4)
  virtualAddress := UInt32.ofNat (file.word (layout.headerPlace index + 12) 4)
  rawSize := UInt32.ofNat (file.word (layout.headerPlace index + 16) 4)
  rawOffset := UInt32.ofNat (file.word (layout.headerPlace index + 20) 4)

section Table

variable {file : Buffer} {layout : Layout} {index count : Nat} {parts : List Section}

private theorem sectionAt_ok {part : Section} (read : sectionAt file layout index = .ok part) :
    layout.headerPlace index + sectionHeaderSize ≤ file.size ∧ part = listedSection file layout index := by
  unfold sectionAt at read
  split at read
  · cases read
  · next run found =>
      obtain ⟨place, summed, accepted⟩ := Option.bind_eq_some_iff.mp found
      obtain ⟨-, rfl⟩ : _ ∧ index * sectionHeaderSize + layout.sectionTable.toNat = place := by
        simpa [checkedAdd] using summed
      obtain ⟨rfl, inside⟩ := Extent.within?_sound accepted
      have same : index * sectionHeaderSize + layout.sectionTable.toNat = layout.headerPlace index := by
        rw [Layout.headerPlace, Nat.add_comm, Nat.mul_comm]
      rw [same] at inside read
      exact ⟨inside, (Except.ok.inj read).symm⟩

theorem sectionAt_of_inside (reach : layout.headerPlace index + sectionHeaderSize ≤ wordLimit)
    (inside : layout.headerPlace index + sectionHeaderSize ≤ file.size) :
    sectionAt file layout index = .ok (listedSection file layout index) := by
  have same : index * sectionHeaderSize + layout.sectionTable.toNat = layout.headerPlace index := by
    rw [Layout.headerPlace, Nat.add_comm, Nat.mul_comm]
  have fits : layout.headerPlace index < wordLimit := by
    unfold sectionHeaderSize at reach
    omega
  unfold sectionAt
  rw [checkedAdd_of_lt (by rwa [same]), same, Option.bind_some, Extent.within?_of_reach reach inside]
  rfl

theorem sectionAt_of_outside (outside : file.size < layout.headerPlace index + sectionHeaderSize) :
    sectionAt file layout index = .error .tableOutsideFile := by
  cases read : sectionAt file layout index with
  | ok part => exact absurd (sectionAt_ok read).1 (Nat.not_le.mpr outside)
  | error fault =>
      unfold sectionAt at read
      split at read
      · exact read.symm
      · cases read

theorem mapM_sectionAt_ok (table : (List.range' index count).mapM (sectionAt file layout) = .ok parts) :
    parts = (List.range' index count).map (listedSection file layout) ∧
      ∀ other ∈ List.range' index count, layout.headerPlace other + sectionHeaderSize ≤ file.size := by
  induction count generalizing index parts with
  | zero =>
      obtain rfl := Except.ok.inj table
      exact ⟨rfl, List.forall_mem_nil _⟩
  | succ count ih =>
      rw [List.range'_succ, List.mapM_cons] at table
      cases read : sectionAt file layout index with
      | error fault =>
          rw [read] at table
          cases table
      | ok part =>
          cases later : (List.range' (index + 1) count).mapM (sectionAt file layout) with
          | error fault =>
              rw [read, later] at table
              cases table
          | ok others =>
              rw [read, later] at table
              obtain rfl : part :: others = parts := Except.ok.inj table
              obtain ⟨inside, rfl⟩ := sectionAt_ok read
              obtain ⟨rfl, rest⟩ := ih later
              rw [List.range'_succ]
              exact ⟨rfl, List.forall_mem_cons.mpr ⟨inside, rest⟩⟩

theorem Section.copySize_toNat (part : Section) :
    part.copySize.toNat = min part.virtualSize.toNat part.rawSize.toNat := by
  unfold copySize
  rw [UInt32.min_def, Nat.min_def]
  simp only [UInt32.le_iff_toNat_le]
  split <;> rfl

end Table

/-- Section number `index` is the last in table order that covers a place. -/
structure LastCover (file : Buffer) (layout : Layout) (place index : Nat) : Prop where
  counted : index < layout.sectionCount.toNat
  lower : (listedSection file layout index).virtualAddress.toNat ≤ place
  upper : place < (listedSection file layout index).virtualAddress.toNat +
    (listedSection file layout index).virtualSize.toNat
  last : ∀ later, index < later → later < layout.sectionCount.toNat →
    (listedSection file layout later).covers place = false

section Overlay

variable {file : Buffer} {layout : Layout} {place index : Nat} {below : Nat → UInt8}

private theorem overlay_of_lastCover (decides : LastCover file layout place index) :
    overlay file ((List.range' 0 layout.sectionCount.toNat).map (listedSection file layout)) below place =
      (listedSection file layout index).byteAt file place := by
  obtain ⟨rest, total⟩ := Nat.exists_eq_add_of_lt decides.counted
  have cut : List.range' 0 layout.sectionCount.toNat =
      List.range' 0 index ++ index :: List.range' (index + 1) rest := by
    rw [total, Nat.add_assoc, ← List.range'_append_1, Nat.zero_add, List.range'_succ]
  have found : ((List.range' 0 layout.sectionCount.toNat).map (listedSection file layout)).reverse.find?
      (·.covers place) = some (listedSection file layout index) := by
    refine List.find?_eq_some_iff_append.mpr ⟨Section.covers_iff.mpr ⟨decides.lower, decides.upper⟩,
      ((List.range' (index + 1) rest).map (listedSection file layout)).reverse,
      ((List.range' 0 index).map (listedSection file layout)).reverse, ?_, ?_⟩
    · rw [cut, List.map_append, List.map_cons, List.reverse_append, List.reverse_cons, List.append_assoc]
      rfl
    · intro part member
      obtain ⟨later, listed, rfl⟩ := List.mem_map.mp (List.mem_reverse.mp member)
      obtain ⟨after, before⟩ := List.mem_range'_1.mp listed
      rw [decides.last later after (by omega)]
      rfl
  rw [overlay, found]

private theorem overlay_of_uncovered
    (uncovered : ∀ other < layout.sectionCount.toNat, (listedSection file layout other).covers place = false) :
    overlay file ((List.range' 0 layout.sectionCount.toNat).map (listedSection file layout)) below place =
      below place := by
  have missing : ((List.range' 0 layout.sectionCount.toNat).map (listedSection file layout)).reverse.find?
      (·.covers place) = none := by
    refine List.find?_eq_none.mpr fun part member => ?_
    obtain ⟨other, listed, rfl⟩ := List.mem_map.mp (List.mem_reverse.mp member)
    rw [uncovered other (by have := List.mem_range'_1.mp listed; omega)]
    exact Bool.false_ne_true
  rw [overlay, missing]

end Overlay

/-- Once headers and sections are in place, the last section that covers a byte decides it: the byte is its data, or
zero behind them. A byte that no section covers is one of the headers, or what it was before. -/
theorem last_section_decides (file : Buffer) (layout : Layout) (image headed filled : Buffer)
    (copied : copyHeaders file layout image = .ok headed)
    (loaded : (loadSections file layout headed).result = .ok filled) :
    filled.size = image.size ∧
      (∀ index < layout.sectionCount.toNat, layout.headerPlace index + sectionHeaderSize ≤ file.size) ∧
      ∀ place < image.size,
        (∀ index, LastCover file layout place index →
          let part := listedSection file layout index
          let distance := place - part.virtualAddress.toNat
          filled[place]? =
            if distance < min part.virtualSize.toNat part.rawSize.toNat then
              file[part.rawOffset.toNat + distance]?
            else some 0) ∧
        ((∀ index < layout.sectionCount.toNat, (listedSection file layout index).covers place = false) →
          filled[place]? = if place < layout.headersSize.toNat then file[place]? else image[place]?) := by
  obtain ⟨inFile, inImage, headedSize, headers⟩ := copyHeaders_ok copied
  obtain ⟨parts, table, fits, filledSize, overlaid⟩ := loadSectionsFrom_ok loaded
  obtain ⟨rfl, inside⟩ := mapM_sectionAt_ok table
  rw [headedSize] at filledSize
  let below (place : Nat) : UInt8 :=
    if place < layout.headersSize.toNat then file.getD place 0 else image.getD place 0
  have shows : HasBytes headed below := by
    intro place bound
    rw [headers place]
    dsimp only [below]
    by_cases header : place < layout.headersSize.toNat
    · rw [if_pos header, if_pos header]
    · rw [if_neg header, if_neg header]
      exact hasBytes_getD image place (headedSize ▸ bound)
  refine ⟨filledSize, fun index counted => inside index (List.mem_range'_1.mpr (by omega)), ?_⟩
  intro place bound
  have byte := overlaid below shows place (filledSize ▸ bound)
  refine ⟨?_, ?_⟩
  · intro index decides part distance
    rw [byte, overlay_of_lastCover decides, ← Section.copySize_toNat]
    have listed : listedSection file layout index ∈
        (List.range' 0 layout.sectionCount.toNat).map (listedSection file layout) :=
      List.mem_map_of_mem (List.mem_range'_1.mpr ⟨Nat.zero_le _, by have := decides.counted; omega⟩)
    have data : 0 < part.copySize.toNat → part.rawOffset.toNat + part.copySize.toNat ≤ file.size :=
      (fits _ listed).file
    change some (if distance < part.copySize.toNat then file.getD (part.rawOffset.toNat + distance) 0 else 0) = _
    by_cases near : distance < part.copySize.toNat
    · rw [if_pos near, if_pos near]
      exact (hasBytes_getD file (part.rawOffset.toNat + distance) (by omega)).symm
    · rw [if_neg near, if_neg near]
  · intro uncovered
    rw [byte, overlay_of_uncovered uncovered]
    dsimp only [below]
    by_cases header : place < layout.headersSize.toNat
    · rw [if_pos header, if_pos header]
      exact (hasBytes_getD file place (by omega)).symm
    · rw [if_neg header, if_neg header]
      exact (hasBytes_getD image place bound).symm

/-- Behind the two bytes of its data the second section is zero, over the data of the first; what no section covers
is a header or stays. -/
theorem last_section_decides_overlapping :
    ∃ headed filled, copyHeaders overlappingFile overlappingLayout (Array.replicate 40 0xee) = .ok headed ∧
      (loadSections overlappingFile overlappingLayout headed).result = .ok filled ∧
      LastCover overlappingFile overlappingLayout 26 1 ∧ LastCover overlappingFile overlappingLayout 25 1 ∧
      filled[26]? = some 0 ∧ filled[25]? = some 0x30 ∧ filled[6]? = some 7 ∧ filled[38]? = some 0xee := by
  let headed : Buffer := #[1, 2, 3, 4, 5, 6, 7, 8] ++ Array.replicate 32 0xee
  let filled : Buffer := #[1, 2, 3, 4, 5, 6, 7, 8] ++ Array.replicate 8 0xee ++
    #[0, 0, 0, 0, 12, 0, 0, 0, 4, 0x30] ++ Array.replicate 10 0 ++ Array.replicate 4 0xee
  have copied : copyHeaders overlappingFile overlappingLayout (Array.replicate 40 0xee) = .ok headed := by
    decide +kernel
  have loaded : (loadSections overlappingFile overlappingLayout headed).result = .ok filled := by decide +kernel
  have behind : LastCover overlappingFile overlappingLayout 26 1 := by
    refine ⟨by decide, by decide +kernel, by decide +kernel, fun later after counted => ?_⟩
    exact absurd counted (Nat.not_lt.mpr after)
  have data : LastCover overlappingFile overlappingLayout 25 1 := by
    refine ⟨by decide, by decide +kernel, by decide +kernel, fun later after counted => ?_⟩
    exact absurd counted (Nat.not_lt.mpr after)
  obtain ⟨-, -, bytes⟩ := last_section_decides overlappingFile overlappingLayout _ headed filled copied loaded
  refine ⟨headed, filled, copied, loaded, behind, data, ?_, ?_, ?_, ?_⟩
  · rw [(bytes 26 (by decide)).1 1 behind]
    decide +kernel
  · rw [(bytes 25 (by decide)).1 1 data]
    decide +kernel
  · rw [(bytes 6 (by decide)).2 (by decide +kernel)]
    decide +kernel
  · rw [(bytes 38 (by decide)).2 (by decide +kernel)]
    decide +kernel

end EfiHandoff.Image
