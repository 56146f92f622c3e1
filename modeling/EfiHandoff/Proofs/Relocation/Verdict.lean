import EfiHandoff.Proofs.Relocation.Scan

/-!
# How relocation ends

A table in order, and the first violation in a table that is not, said of the bytes as they stand. A scan ends
without a fault on exactly the tables in order, and with the first violation on all others.
-/

set_option autoImplicit false

namespace EfiHandoff.Image

/-- The kinds that patch, each with the number of bytes it patches. -/
def patchWidths : List (Nat × Nat) := [(1, 2), (2, 2), (3, 4), (10, 8)]

/-- An entry that reads `raw` is padding, or patches inside an image of `size` bytes. -/
def EntryInOrder (size page raw : Nat) : Prop :=
  raw / 0x1000 = 0 ∨
    ∃ width, (raw / 0x1000, width) ∈ patchWidths ∧ page + raw % 0x1000 + width ≤ size

instance (size page raw : Nat) : Decidable (EntryInOrder size page raw) :=
  decidable_of_iff
    (raw / 0x1000 = 0 ∨
      ∃ known ∈ patchWidths, raw / 0x1000 = known.1 ∧ page + raw % 0x1000 + known.2 ≤ size) (by
    unfold EntryInOrder
    constructor
    · intro assumed
      rcases assumed with padding | ⟨⟨code, width⟩, listed, rfl, inside⟩
      · exact .inl padding
      · exact .inr ⟨width, listed, inside⟩
    · intro assumed
      rcases assumed with padding | ⟨width, listed, inside⟩
      · exact .inl padding
      · exact .inr ⟨_, listed, rfl, inside⟩)

/-- What is wrong with an entry that reads `raw`, and the error it stands for. -/
inductive EntryViolation (size block page raw : Nat) : RelocationFault → BootError → Prop where
  | unknown (padding : raw / 0x1000 ≠ 0)
      (unknown : ∀ width, (raw / 0x1000, width) ∉ patchWidths) :
      EntryViolation size block page raw (.unknownKind (raw / 0x1000) block)
        (.unknownFixup (UInt8.ofNat (raw / 0x1000)))
  | outside {width : Nat} (known : (raw / 0x1000, width) ∈ patchWidths)
      (outside : size < page + raw % 0x1000 + width) :
      EntryViolation size block page raw (.targetOutside (page + raw % 0x1000))
        .relocationOutOfRange

def entryAt (image : Buffer) (block index : Nat) : Nat :=
  image.word (block + blockHeaderSize + 2 * index) 2

def EntriesInOrder (image : Buffer) (block count : Nat) : Prop :=
  ∀ index < count, EntryInOrder image.size (blockPage image block) (entryAt image block index)

instance (image : Buffer) (block count : Nat) : Decidable (EntriesInOrder image block count) :=
  inferInstanceAs (Decidable (∀ index < count,
    EntryInOrder image.size (blockPage image block) (entryAt image block index)))

/-- The blocks from a place up to `last` are in order. -/
inductive BlocksInOrder (image : Buffer) (last : Nat) : Nat → Prop where
  | finished {place : Nat} (reached : last ≤ place) : BlocksInOrder image last place
  | block {place : Nat} (before : place < last) (accepted : BlockAccepted image place)
      (entries : EntriesInOrder image place (entryCount image place))
      (rest : BlocksInOrder image last (place + blockSize image place)) :
      BlocksInOrder image last place

/-- The first thing wrong in the blocks from a place up to `last`, and the error it stands for. -/
inductive FirstViolation (image : Buffer) (last : Nat) :
    Nat → RelocationFault → BootError → Prop where
  | header {place : Nat} (before : place < last)
      (outside : image.size < place + blockHeaderSize) :
      FirstViolation image last place (.headerOutside place) .relocationOutOfRange
  | minimal {place : Nat} (before : place < last)
      (header : place + blockHeaderSize ≤ image.size)
      (small : blockSize image place < blockHeaderSize) :
      FirstViolation image last place
        (.blockTooSmall place (UInt32.ofNat (blockSize image place)))
        (.relocationBlockTooSmall (UInt32.ofNat (blockSize image place)))
  | inside {place : Nat} (before : place < last)
      (header : place + blockHeaderSize ≤ image.size)
      (minimal : blockHeaderSize ≤ blockSize image place)
      (outside : image.size < place + blockSize image place) :
      FirstViolation image last place (.blockOutside place (blockSize image place))
        .relocationOutOfRange
  | page {place : Nat} (before : place < last) (header : place + blockHeaderSize ≤ image.size)
      (minimal : blockHeaderSize ≤ blockSize image place)
      (inside : place + blockSize image place ≤ image.size)
      (outside : image.size ≤ blockPage image place) :
      FirstViolation image last place (.pageOutside (blockPage image place))
        .relocationPageOutOfRange
  | entry {place index : Nat} {fault : RelocationFault} {error : BootError}
      (before : place < last) (accepted : BlockAccepted image place)
      (counted : index < entryCount image place) (earlier : EntriesInOrder image place index)
      (violation : EntryViolation image.size place (blockPage image place)
        (entryAt image place index) fault error) :
      FirstViolation image last place fault error
  | later {place : Nat} {fault : RelocationFault} {error : BootError} (before : place < last)
      (accepted : BlockAccepted image place)
      (entries : EntriesInOrder image place (entryCount image place))
      (rest : FirstViolation image last (place + blockSize image place) fault error) :
      FirstViolation image last place fault error

/-- There is no table, or it is empty, or it lies in the image and its blocks are in order. -/
def Layout.RelocationsInOrder (layout : Layout) (image : Buffer) : Prop :=
  layout.directoryCount.toNat ≤ 5 ∨ layout.relocations.size.toNat = 0 ∨
    layout.tableLast ≤ image.size ∧ BlocksInOrder image layout.tableLast layout.tableStart

/-- The first thing wrong with the table of an image, and the error it stands for. -/
def Layout.FirstRelocationViolation (layout : Layout) (image : Buffer) (fault : RelocationFault)
    (error : BootError) : Prop :=
  5 < layout.directoryCount.toNat ∧ layout.relocations.size.toNat ≠ 0 ∧
    (image.size < layout.tableLast ∧
        fault = .tableOutside layout.tableStart layout.relocations.size.toNat image.size ∧
        error = .relocationOutOfRange ∨
      layout.tableLast ≤ image.size ∧
        FirstViolation image layout.tableLast layout.tableStart fault error)

section Entry

variable {size block page raw : Nat}

/-- The kinds with their numbers: padding is 0, and the others are listed with their widths. -/
theorem FixupKind.ofCode?_cases (code : Nat) :
    (code = 0 ∧ ofCode? code = some .absolute) ∨
      (∃ kind, kind ≠ .absolute ∧ (code, kind.width) ∈ patchWidths ∧ ofCode? code = some kind) ∨
      code ≠ 0 ∧ (∀ width, (code, width) ∉ patchWidths) ∧ ofCode? code = none := by
  unfold ofCode?
  split
  · exact .inl ⟨rfl, rfl⟩
  · exact .inr (.inl ⟨.high, by decide, by decide, rfl⟩)
  · exact .inr (.inl ⟨.low, by decide, by decide, rfl⟩)
  · exact .inr (.inl ⟨.highLow, by decide, by decide, rfl⟩)
  · exact .inr (.inl ⟨.dir64, by decide, by decide, rfl⟩)
  · next padding high low highLow dir64 =>
      refine .inr (.inr ⟨padding, ?_, rfl⟩)
      intro width listed
      simp only [patchWidths, List.mem_cons, Prod.mk.injEq, List.not_mem_nil, or_false] at listed
      rcases listed with ⟨known, -⟩ | ⟨known, -⟩ | ⟨known, -⟩ | ⟨known, -⟩
      · exact high known
      · exact low known
      · exact highLow known
      · exact dir64 known

private theorem patchWidths_unique {code left right : Nat} (first : (code, left) ∈ patchWidths)
    (second : (code, right) ∈ patchWidths) : left = right := by
  simp only [patchWidths, List.mem_cons, Prod.mk.injEq, List.not_mem_nil, or_false] at first second
  omega

theorem patchWidths_ne_zero {code width : Nat} (listed : (code, width) ∈ patchWidths) : code ≠ 0 := by
  simp only [patchWidths, List.mem_cons, Prod.mk.injEq, List.not_mem_nil, or_false] at listed
  omega

theorem entryDemand_ok_iff :
    (∃ asked, entryDemand size block page raw = .ok asked) ↔ EntryInOrder size page raw := by
  rcases FixupKind.ofCode?_cases (raw / 0x1000) with
    ⟨padding, decoded⟩ | ⟨kind, patching, listed, decoded⟩ | ⟨padding, unknown, decoded⟩
  · rw [entryDemand_of_absolute decoded]
    exact ⟨fun _ => .inl padding, fun _ => ⟨none, rfl⟩⟩
  · rw [entryDemand_of_patching decoded patching]
    constructor
    · intro assumed
      obtain ⟨asked, accepted⟩ := assumed
      split at accepted
      · next inside => exact .inr ⟨kind.width, listed, inside⟩
      · cases accepted
    · intro assumed
      rcases assumed with padding | ⟨width, same, inside⟩
      · exact absurd padding (patchWidths_ne_zero listed)
      · rw [patchWidths_unique same listed] at inside
        exact ⟨_, if_pos inside⟩
  · rw [entryDemand_of_unknown decoded]
    constructor
    · intro assumed
      obtain ⟨asked, ⟨⟩⟩ := assumed
    · intro assumed
      rcases assumed with zero | ⟨width, listed, -⟩
      · exact absurd zero padding
      · exact absurd listed (unknown width)

theorem entryDemand_error_iff {fault : RelocationFault} {error : BootError} :
    entryDemand size block page raw = .error fault ∧ Fault.error fault = error ↔
      EntryViolation size block page raw fault error := by
  rcases FixupKind.ofCode?_cases (raw / 0x1000) with
    ⟨padding, decoded⟩ | ⟨kind, patching, listed, decoded⟩ | ⟨padding, unknown, decoded⟩
  · rw [entryDemand_of_absolute decoded]
    constructor
    · intro assumed
      obtain ⟨⟨⟩, -⟩ := assumed
    · intro assumed
      rcases assumed with ⟨known, -⟩ | ⟨listed, -⟩
      · exact absurd padding known
      · exact absurd padding (patchWidths_ne_zero listed)
  · rw [entryDemand_of_patching decoded patching]
    constructor
    · intro assumed
      obtain ⟨refused, rfl⟩ := assumed
      split at refused
      · cases refused
      · next outside =>
          cases refused
          exact .outside listed (Nat.lt_of_not_le outside)
    · intro assumed
      rcases assumed with ⟨-, unknown⟩ | ⟨same, outside⟩
      · exact absurd listed (unknown kind.width)
      · rw [patchWidths_unique same listed] at outside
        rw [if_neg (Nat.not_le.mpr outside)]
        exact ⟨rfl, rfl⟩
  · rw [entryDemand_of_unknown decoded]
    constructor
    · intro assumed
      obtain ⟨⟨⟩, rfl⟩ := assumed
      exact .unknown padding unknown
    · intro assumed
      rcases assumed with _ | ⟨listed, -⟩
      · exact ⟨rfl, rfl⟩
      · exact absurd listed (unknown _)

theorem EntryViolation.not_inOrder {fault : RelocationFault} {error : BootError}
    (violation : EntryViolation size block page raw fault error) : ¬ EntryInOrder size page raw := by
  intro inOrder
  obtain ⟨asked, accepted⟩ := entryDemand_ok_iff.mpr inOrder
  have refused := (entryDemand_error_iff.mpr violation).1
  exact absurd (accepted.symm.trans refused) nofun

end Entry

section Entries

variable {image : Buffer} {block page place count : Nat} {fault : RelocationFault}

private theorem scanEntries_fault_succ :
    (scanEntries image block page place (count + 1)).fault =
      match entryDemand image.size block page (image.word place 2) with
      | .error fault => some fault
      | .ok _ => (scanEntries image block page (place + 2) count).fault := by
  rw [scanEntries, scanEntry]
  cases entryDemand image.size block page (image.word place 2) with
  | error fault => rw [Scan.andThen_of_stopped rfl]
  | ok asked => rw [Scan.andThen_of_finished rfl]

theorem entry_behind (place index : Nat) :
    place + 2 * (index + 1) = place + 2 + 2 * index := by
  omega

theorem scanEntries_fault_none_iff :
    (scanEntries image block page place count).fault = none ↔
      ∀ index < count, EntryInOrder image.size page (image.word (place + 2 * index) 2) := by
  induction count generalizing place with
  | zero => exact ⟨fun _ _ absent => absurd absent (Nat.not_lt_zero _), fun _ => rfl⟩
  | succ count ih =>
      rw [scanEntries_fault_succ, Nat.forall_lt_succ_left, ← @entryDemand_ok_iff image.size block]
      simp only [Nat.mul_zero, Nat.add_zero, entry_behind]
      cases demand : entryDemand image.size block page (image.word place 2) with
      | error fault => simp only [reduceCtorEq, exists_false, false_and]
      | ok asked => simp only [ih, Except.ok.injEq, exists_eq', true_and]

theorem scanEntries_fault_some_iff :
    (scanEntries image block page place count).fault = some fault ↔
      ∃ index < count,
        (∀ earlier < index, EntryInOrder image.size page (image.word (place + 2 * earlier) 2)) ∧
          entryDemand image.size block page (image.word (place + 2 * index) 2) = .error fault := by
  induction count generalizing place with
  | zero =>
      constructor
      · intro same
        cases same
      · intro assumed
        obtain ⟨index, absent, -⟩ := assumed
        exact absurd absent (Nat.not_lt_zero _)
  | succ count ih =>
      have first : EntryInOrder image.size page (image.word place 2) ↔
          ∃ asked, entryDemand image.size block page (image.word place 2) = .ok asked :=
        entryDemand_ok_iff.symm
      rw [scanEntries_fault_succ, Nat.exists_lt_succ_left]
      simp only [Nat.forall_lt_succ_left, Nat.not_lt_zero, false_imp_iff, implies_true, Nat.mul_zero,
        Nat.add_zero, entry_behind, first]
      cases demand : entryDemand image.size block page (image.word place 2) with
      | error other => simp [eq_comm]
      | ok asked => simp [ih]

end Entries

section Blocks

variable {image : Buffer} {last place : Nat} {fault : RelocationFault} {error : BootError}

theorem scanBlock_fault_none_iff :
    (scanBlock image place).fault = none ↔ EntriesInOrder image place (entryCount image place) :=
  scanEntries_fault_none_iff

theorem scanBlock_fault_some_iff :
    (scanBlock image place).fault = some fault ∧ Fault.error fault = error ↔
      ∃ index < entryCount image place, EntriesInOrder image place index ∧
        EntryViolation image.size place (blockPage image place) (entryAt image place index) fault
          error := by
  simp only [← entryDemand_error_iff]
  constructor
  · intro assumed
    obtain ⟨stopped, meaning⟩ := assumed
    obtain ⟨index, counted, earlier, demand⟩ := scanEntries_fault_some_iff.mp stopped
    exact ⟨index, counted, earlier, demand, meaning⟩
  · intro assumed
    obtain ⟨index, counted, earlier, demand, meaning⟩ := assumed
    exact ⟨scanEntries_fault_some_iff.mpr ⟨index, counted, earlier, demand⟩, meaning⟩

theorem BlocksInOrder.scan (bounded : image.size ≤ wordLimit)
    (inOrder : BlocksInOrder image last place) : (scanBlocks image last place).fault = none := by
  induction inOrder with
  | finished reached => rw [scanBlocks_finished reached]
  | block before accepted entries _ ih =>
      rw [scanBlocks_accepted bounded before accepted,
        Scan.andThen_of_finished (scanBlock_fault_none_iff.mpr entries)]
      exact ih

theorem FirstViolation.scan (bounded : image.size ≤ wordLimit)
    (violation : FirstViolation image last place fault error) :
    (scanBlocks image last place).fault = some fault ∧ Fault.error fault = error := by
  induction violation with
  | header before outside =>
      rw [scanBlocks_refused before (by rw [blockAt_eq bounded, if_pos outside])]
      exact ⟨rfl, rfl⟩
  | minimal before header small =>
      rw [scanBlocks_refused before (by rw [blockAt_eq bounded, if_neg (Nat.not_lt.mpr header),
        dif_neg (Nat.not_le.mpr small)])]
      exact ⟨rfl, rfl⟩
  | inside before header minimal outside =>
      rw [scanBlocks_refused before (by rw [blockAt_eq bounded, if_neg (Nat.not_lt.mpr header),
        dif_pos minimal, if_pos outside])]
      exact ⟨rfl, rfl⟩
  | page before header minimal inside outside =>
      rw [scanBlocks_refused before (by rw [blockAt_eq bounded, if_neg (Nat.not_lt.mpr header),
        dif_pos minimal, if_neg (Nat.not_lt.mpr inside), if_pos outside])]
      exact ⟨rfl, rfl⟩
  | entry before accepted counted earlier violation =>
      obtain ⟨stopped, meaning⟩ :=
        scanBlock_fault_some_iff.mpr ⟨_, counted, earlier, violation⟩
      rw [scanBlocks_accepted bounded before accepted, Scan.andThen_of_stopped stopped]
      exact ⟨stopped, meaning⟩
  | later before accepted entries _ ih =>
      rw [scanBlocks_accepted bounded before accepted,
        Scan.andThen_of_finished (scanBlock_fault_none_iff.mpr entries)]
      exact ih

private theorem blockAccepted_or_firstViolation (image : Buffer) (before : place < last) :
    BlockAccepted image place ∨
      ∃ fault, FirstViolation image last place fault (Fault.error fault) := by
  by_cases header : place + blockHeaderSize ≤ image.size
  · by_cases minimal : blockHeaderSize ≤ blockSize image place
    · by_cases inside : place + blockSize image place ≤ image.size
      · by_cases page : blockPage image place < image.size
        · exact .inl ⟨header, minimal, inside, page⟩
        · exact .inr ⟨_, .page before header minimal inside (Nat.le_of_not_lt page)⟩
      · exact .inr ⟨_, .inside before header minimal (Nat.lt_of_not_le inside)⟩
    · exact .inr ⟨_, .minimal before header (Nat.lt_of_not_le minimal)⟩
  · exact .inr ⟨_, .header before (Nat.lt_of_not_le header)⟩

private theorem blocksInOrder_or_firstViolation (image : Buffer) (last place : Nat) :
    BlocksInOrder image last place ∨
      ∃ fault, FirstViolation image last place fault (Fault.error fault) := by
  induction remaining : last - place using Nat.strong_induction_on generalizing place with
  | _ remaining ih =>
      by_cases before : place < last
      · rcases blockAccepted_or_firstViolation image before with accepted | violation
        · cases stopped : (scanBlock image place).fault with
          | some fault =>
              obtain ⟨index, counted, earlier, violation⟩ :=
                scanBlock_fault_some_iff.mp ⟨stopped, rfl⟩
              exact .inr ⟨fault, .entry before accepted counted earlier violation⟩
          | none =>
              have entries := scanBlock_fault_none_iff.mp stopped
              have minimal := accepted.minimal
              unfold blockHeaderSize at minimal
              rcases ih _ (by omega) (place + blockSize image place) rfl with
                inOrder | ⟨fault, violation⟩
              · exact .inl (.block before accepted entries inOrder)
              · exact .inr ⟨fault, .later before accepted entries violation⟩
        · exact .inr violation
      · exact .inl (.finished (Nat.le_of_not_lt before))

theorem scanBlocks_fault_none_iff (bounded : image.size ≤ wordLimit) :
    (scanBlocks image last place).fault = none ↔ BlocksInOrder image last place := by
  constructor
  · intro finished
    rcases blocksInOrder_or_firstViolation image last place with inOrder | ⟨fault, violation⟩
    · exact inOrder
    · exact absurd (finished.symm.trans (violation.scan bounded).1) (Option.some_ne_none fault).symm
  · exact BlocksInOrder.scan bounded

theorem scanBlocks_fault_some_iff (bounded : image.size ≤ wordLimit) :
    (scanBlocks image last place).fault = some fault ∧ Fault.error fault = error ↔
      FirstViolation image last place fault error := by
  constructor
  · intro assumed
    obtain ⟨stopped, rfl⟩ := assumed
    rcases blocksInOrder_or_firstViolation image last place with inOrder | ⟨other, violation⟩
    · exact absurd (stopped.symm.trans (inOrder.scan bounded)) (Option.some_ne_none fault)
    · have same := stopped.symm.trans (violation.scan bounded).1
      cases same
      exact violation
  · exact FirstViolation.scan bounded

end Blocks

section Table

variable {layout : Layout} {image : Buffer} {fault : RelocationFault} {error : BootError}

theorem scan_fault_none_iff (bounded : image.size ≤ wordLimit) :
    (scan layout image).fault = none ↔ layout.RelocationsInOrder image := by
  unfold scan Layout.RelocationsInOrder
  by_cases present : layout.hasRelocations = true
  · obtain ⟨listed, filled⟩ := Layout.hasRelocations_iff.mp present
    rw [if_neg (by simp only [present, Bool.not_true, Bool.false_eq_true, not_false_eq_true])]
    by_cases outside : image.size < layout.tableLast
    · rw [if_pos outside]
      simp only [reduceCtorEq, false_iff]
      omega
    · rw [if_neg outside, scanBlocks_fault_none_iff bounded]
      have unlisted : ¬ layout.directoryCount.toNat ≤ 5 := Nat.not_le.mpr listed
      simp only [unlisted, filled, Nat.le_of_not_lt outside, true_and, false_or]
  · rw [if_pos (by rw [Bool.eq_false_of_not_eq_true present]; rfl)]
    rw [Layout.hasRelocations_iff] at present
    simp only [true_iff]
    omega

theorem scan_fault_some_iff (bounded : image.size ≤ wordLimit) :
    (scan layout image).fault = some fault ∧ Fault.error fault = error ↔
      layout.FirstRelocationViolation image fault error := by
  unfold scan Layout.FirstRelocationViolation
  by_cases present : layout.hasRelocations = true
  · obtain ⟨listed, filled⟩ := Layout.hasRelocations_iff.mp present
    rw [if_neg (by simp only [present, Bool.not_true, Bool.false_eq_true, not_false_eq_true])]
    by_cases outside : image.size < layout.tableLast
    · rw [if_pos outside]
      constructor
      · intro assumed
        obtain ⟨⟨⟩, rfl⟩ := assumed
        exact ⟨listed, filled, .inl ⟨outside, rfl, rfl⟩⟩
      · intro assumed
        obtain ⟨-, -, ⟨-, rfl, rfl⟩ | ⟨inside, -⟩⟩ := assumed
        · exact ⟨rfl, rfl⟩
        · exact absurd outside (Nat.not_lt.mpr inside)
    · rw [if_neg outside, scanBlocks_fault_some_iff bounded]
      simp only [listed, filled, outside, Nat.le_of_not_lt outside, ne_eq, not_false_eq_true,
        true_and, false_and, false_or]
  · rw [if_pos (by rw [Bool.eq_false_of_not_eq_true present]; rfl)]
    rw [Layout.hasRelocations_iff] at present
    constructor
    · intro assumed
      obtain ⟨⟨⟩, -⟩ := assumed
    · intro assumed
      obtain ⟨listed, filled, -⟩ := assumed
      exact absurd ⟨listed, filled⟩ present

end Table

end EfiHandoff.Image
