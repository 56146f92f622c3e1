import EfiHandoff.Proofs.Relocation.Verdict

/-!
# Relocation against a reference

The reference reads the table as it stands into a list of fixups, each a number for its kind and a target, and then
adds to the values one after the other. By its kind a fixup adds bits 16 to 31, bits 0 to 15, bits 0 to 31 or all
bits of the distance, and what overflows the value is lost.
-/

set_option autoImplicit false

namespace EfiHandoff.Image

/-- What a fixup of the kind numbered `code` adds for a distance of `delta`, to a value of how many bytes. -/
inductive Adds (delta : UInt64) : (code width amount : Nat) → Prop where
  | high : Adds delta 1 2 (delta.toNat / 2 ^ 16 % 2 ^ 16)
  | low : Adds delta 2 2 (delta.toNat % 2 ^ 16)
  | highLow : Adds delta 3 4 (delta.toNat % 2 ^ 32)
  | dir64 : Adds delta 10 8 delta.toNat

/-- The value at `target` grows by what the kind adds, modulo the width of the value, and no other byte changes. -/
structure Adjusts (delta : UInt64) (code target : Nat) (before after : Buffer) : Prop where
  size : after.size = before.size
  value : ∃ width amount, Adds delta code width amount ∧
    after.word target width = (before.word target width + amount) % 256 ^ width ∧
    ∀ index, (index < target ∨ target + width ≤ index) → after[index]? = before[index]?

/-- The listed fixups turn `before` into `after`, each working on what the one in front of it left. -/
inductive AdjustsAll (delta : UInt64) : List (Nat × Nat) → Buffer → Buffer → Prop where
  | nil {image : Buffer} : AdjustsAll delta [] image image
  | cons {code target : Nat} {listed : List (Nat × Nat)} {before between after : Buffer}
      (first : Adjusts delta code target before between) (rest : AdjustsAll delta listed between after) :
      AdjustsAll delta ((code, target) :: listed) before after

/-- The fixup an entry that reads `raw` stands for: none if it is padding. -/
def entryFixup (page raw : Nat) : Option (Nat × Nat) :=
  if raw / 0x1000 = 0 then none else some (raw / 0x1000, page + raw % 0x1000)

/-- The fixups of the first `count` entries of the block at `block`. -/
def entryFixups (image : Buffer) (block count : Nat) : List (Nat × Nat) :=
  (List.range count).filterMap fun index => entryFixup (blockPage image block) (entryAt image block index)

/-- The fixups in the blocks from a place up to `last`, as far as the blocks and entries are in order. -/
inductive BlocksList (image : Buffer) (last : Nat) : Nat → List (Nat × Nat) → Prop where
  | finished {place : Nat} (reached : last ≤ place) : BlocksList image last place []
  | refused {place : Nat} (before : place < last) (refused : ¬ BlockAccepted image place) :
      BlocksList image last place []
  | entry {place index : Nat} (before : place < last) (accepted : BlockAccepted image place)
      (counted : index < entryCount image place) (earlier : EntriesInOrder image place index)
      (violation : ¬ EntryInOrder image.size (blockPage image place) (entryAt image place index)) :
      BlocksList image last place (entryFixups image place index)
  | block {place : Nat} {later : List (Nat × Nat)} (before : place < last) (accepted : BlockAccepted image place)
      (entries : EntriesInOrder image place (entryCount image place))
      (rest : BlocksList image last (place + blockSize image place) later) :
      BlocksList image last place (entryFixups image place (entryCount image place) ++ later)

/-- The fixups of an image: none without a table in the image, and those in front of the first violation else. -/
inductive Layout.Lists (layout : Layout) (image : Buffer) : List (Nat × Nat) → Prop where
  | absent (absent : layout.directoryCount.toNat ≤ 5 ∨ layout.relocations.size.toNat = 0) :
      layout.Lists image []
  | outside (outside : image.size < layout.tableLast) : layout.Lists image []
  | table {listed : List (Nat × Nat)} (directory : 5 < layout.directoryCount.toNat)
      (filled : layout.relocations.size.toNat ≠ 0) (inside : layout.tableLast ≤ image.size)
      (blocks : BlocksList image layout.tableLast layout.tableStart listed) : layout.Lists image listed

section Adjusting

variable {delta : UInt64} {code target : Nat} {before after : Buffer}

private theorem Adds.unique {width other amount sum : Nat} (first : Adds delta code width amount)
    (second : Adds delta code other sum) : width = other ∧ amount = sum := by
  cases first <;> cases second <;> exact ⟨rfl, rfl⟩

theorem Adjusts.unique {other : Buffer} (first : Adjusts delta code target before after)
    (second : Adjusts delta code target before other) : after = other := by
  obtain ⟨width, amount, adds, word, frame⟩ := first.value
  obtain ⟨_, _, same, otherWord, otherFrame⟩ := second.value
  obtain ⟨rfl, rfl⟩ := adds.unique same
  refine Buffer.ext_word (first.size.trans second.size.symm) (word.trans otherWord.symm) ?_
  intro index outside
  exact (frame index outside).trans (otherFrame index outside).symm

theorem AdjustsAll.unique {listed : List (Nat × Nat)} {other : Buffer}
    (first : AdjustsAll delta listed before after) (second : AdjustsAll delta listed before other) :
    after = other := by
  induction first with
  | nil =>
      cases second
      rfl
  | cons adjusted _ ih =>
      cases second with
      | cons otherAdjusted rest =>
          obtain rfl := adjusted.unique otherAdjusted
          exact ih rest

/-- Writing the sum over the value is what a fixup does. -/
theorem Adds.overwrite {width amount : Nat} (adds : Adds delta code width amount)
    (inside : target + width ≤ before.size) :
    Adjusts delta code target before
      (before.overwrite target (Bytes.ofNat width (before.word target width + amount))) where
  size := Buffer.size_overwrite _ _ _
  value := by
    let sum := Bytes.ofNat width (before.word target width + amount)
    have length : sum.length = width := Bytes.length_ofNat _ _
    have written : (before.overwrite target sum).word target sum.length = Bytes.littleEndian sum :=
      Buffer.word_overwrite (by rw [length]; exact inside)
    rw [length, Bytes.littleEndian_ofNat] at written
    refine ⟨width, amount, adds, written, fun index outside => Buffer.overwrite_frame ?_⟩
    rw [Bytes.length_ofNat]
    exact outside

end Adjusting

namespace Fixup

def listing (fixup : Fixup) : Nat × Nat := (fixup.kind.code, fixup.target)

/-- A kind that patches adds what its number stands for. -/
theorem adds (delta : UInt64) {kind : FixupKind} (patching : kind ≠ .absolute) :
    ∃ amount, Adds delta kind.code kind.width amount ∧
      ∀ value, (value + kind.addend delta) % 256 ^ kind.width = (value + amount) % 256 ^ kind.width := by
  cases kind with
  | absolute => exact absurd rfl patching
  | high => exact ⟨_, .high, fun _ => (Nat.add_mod_mod _ _ _).symm⟩
  | low => exact ⟨_, .low, fun _ => (Nat.add_mod_mod _ _ _).symm⟩
  | highLow => exact ⟨_, .highLow, fun _ => (Nat.add_mod_mod _ _ _).symm⟩
  | dir64 => exact ⟨_, .dir64, fun _ => rfl⟩

private theorem Patches.adjusts (delta : UInt64) {image : Buffer} {fixup : Fixup}
    (patches : fixup.Patches image.size) :
    Adjusts delta fixup.kind.code fixup.target image (fixup.apply delta image) := by
  obtain ⟨amount, adds, sum⟩ := adds delta patches.kind
  refine ⟨size_apply delta image fixup, fixup.kind.width, amount, adds, ?_, ?_⟩
  · rw [word_apply delta patches.inside, sum]
  · exact fun index outside => apply_frame delta image outside

end Fixup

theorem applyFixups_adjusts (delta : UInt64) {fixups : List Fixup} {image : Buffer}
    (patches : ∀ fixup ∈ fixups, fixup.Patches image.size) :
    AdjustsAll delta (fixups.map Fixup.listing) image (applyFixups delta fixups image) := by
  induction fixups generalizing image with
  | nil => exact .nil
  | cons fixup rest ih =>
      obtain ⟨own, others⟩ := List.forall_mem_cons.mp patches
      rw [← Fixup.size_apply delta image fixup] at others
      exact .cons (own.adjusts delta) (ih others)

section Entries

variable {image : Buffer} {block page place : Nat}

private theorem code_of_ofCode? {code : Nat} {kind : FixupKind} (decoded : FixupKind.ofCode? code = some kind) :
    kind.code = code := by
  unfold FixupKind.ofCode? at decoded
  split at decoded <;> cases decoded <;> rfl

private theorem entryDemand_listing {size raw : Nat} {asked : Option Fixup}
    (accepted : entryDemand size block page raw = .ok asked) :
    asked.map Fixup.listing = entryFixup page raw := by
  unfold entryFixup
  rcases FixupKind.ofCode?_cases (raw / 0x1000) with
    ⟨padding, decoded⟩ | ⟨kind, patching, listed, decoded⟩ | ⟨-, -, decoded⟩
  · rw [entryDemand_of_absolute decoded] at accepted
    cases accepted
    rw [if_pos padding]
    rfl
  · rw [entryDemand_of_patching decoded patching] at accepted
    split at accepted
    · cases accepted
      rw [if_neg (patchWidths_ne_zero listed), ← code_of_ofCode? decoded]
      rfl
    · cases accepted
  · rw [entryDemand_of_unknown decoded] at accepted
    cases accepted

/-- A scan of entries lists those in front of the first that is not in order. -/
theorem scanEntries_listing {reached count : Nat} (upTo : reached ≤ count)
    (earlier : ∀ index < reached, EntryInOrder image.size page (image.word (place + 2 * index) 2))
    (stopped : reached < count → ¬ EntryInOrder image.size page (image.word (place + 2 * reached) 2)) :
    (scanEntries image block page place count).fixups.map Fixup.listing =
      (List.range reached).filterMap fun index => entryFixup page (image.word (place + 2 * index) 2) := by
  induction count generalizing place reached with
  | zero =>
      obtain rfl := Nat.le_zero.mp upTo
      rfl
  | succ count ih =>
      rw [scanEntries, scanEntry]
      cases demand : entryDemand image.size block page (image.word place 2) with
      | error fault =>
          have refused : ¬ EntryInOrder image.size page (image.word place 2) := by
            intro inOrder
            obtain ⟨asked, accepted⟩ := entryDemand_ok_iff.mpr inOrder
            exact absurd (accepted.symm.trans demand) (by simp only [reduceCtorEq, not_false_eq_true])
          cases reached with
          | zero => rfl
          | succ reached => exact absurd (earlier 0 (Nat.succ_pos reached)) refused
      | ok asked =>
          cases reached with
          | zero => exact absurd (entryDemand_ok_iff.mp ⟨asked, demand⟩) (stopped (Nat.succ_pos count))
          | succ reached =>
              simp only [Nat.forall_lt_succ_left, Nat.add_lt_add_iff_right, entry_behind] at earlier stopped
              have first := entryDemand_listing demand
              have others := ih (Nat.le_of_succ_le_succ upTo) earlier.2 stopped
              rw [Scan.andThen_of_finished rfl, List.map_append, others]
              simp only [List.range_succ_eq_map, List.filterMap_cons, List.filterMap_map, Function.comp_def,
                Nat.succ_eq_add_one, entry_behind, Nat.mul_zero, Nat.add_zero, ← first]
              cases asked with
              | none => rfl
              | some fixup => rfl

private theorem scanBlock_listing {reached : Nat} (upTo : reached ≤ entryCount image place)
    (earlier : EntriesInOrder image place reached)
    (stopped : reached < entryCount image place →
      ¬ EntryInOrder image.size (blockPage image place) (entryAt image place reached)) :
    (scanBlock image place).fixups.map Fixup.listing = entryFixups image place reached :=
  scanEntries_listing upTo earlier stopped

end Entries

section Blocks

variable {image : Buffer} {last place : Nat}

theorem BlocksList.eq_scan {listed : List (Nat × Nat)} (bounded : image.size ≤ wordLimit)
    (lists : BlocksList image last place listed) :
    listed = (scanBlocks image last place).fixups.map Fixup.listing := by
  induction lists with
  | finished reached => rw [scanBlocks_finished reached, List.map_nil]
  | @refused place before refused =>
      cases found : blockAt image place with
      | error fault => rw [scanBlocks_refused before found, List.map_nil]
      | ok block => exact absurd (blockAt_ok bounded found).1 refused
  | @entry place index before accepted counted earlier violation =>
      have stopped : (scanBlock image place).fault ≠ none := by
        intro finished
        exact violation (scanBlock_fault_none_iff.mp finished index counted)
      obtain ⟨fault, stopped⟩ := Option.ne_none_iff_exists'.mp stopped
      rw [scanBlocks_accepted bounded before accepted, Scan.andThen_of_stopped stopped,
        scanBlock_listing (Nat.le_of_lt counted) earlier fun _ => violation]
  | @block place later before accepted entries _ ih =>
      have own := scanBlock_listing (Nat.le_refl _) entries fun absent => absurd absent (Nat.lt_irrefl _)
      rw [scanBlocks_accepted bounded before accepted,
        Scan.andThen_of_finished (scanBlock_fault_none_iff.mpr entries), List.map_append, own, ih]

theorem exists_blocksList (image : Buffer) (last place : Nat) : ∃ listed, BlocksList image last place listed := by
  induction remaining : last - place using Nat.strong_induction_on generalizing place with
  | _ remaining ih =>
      by_cases before : place < last
      · by_cases accepted : BlockAccepted image place
        · cases stopped : (scanBlock image place).fault with
          | some fault =>
              obtain ⟨index, counted, earlier, violation⟩ := scanBlock_fault_some_iff.mp ⟨stopped, rfl⟩
              exact ⟨_, .entry before accepted counted earlier violation.not_inOrder⟩
          | none =>
              have minimal := accepted.minimal
              unfold blockHeaderSize at minimal
              obtain ⟨later, rest⟩ := ih _ (by omega) (place + blockSize image place) rfl
              exact ⟨_, .block before accepted (scanBlock_fault_none_iff.mp stopped) rest⟩
        · exact ⟨_, .refused before accepted⟩
      · exact ⟨_, .finished (Nat.le_of_not_lt before)⟩

end Blocks

section Table

variable {layout : Layout} {image : Buffer} {listed : List (Nat × Nat)}

theorem Layout.Lists.eq_scan (bounded : image.size ≤ wordLimit) (lists : layout.Lists image listed) :
    listed = (scan layout image).fixups.map Fixup.listing := by
  unfold scan
  cases lists with
  | absent absent =>
      have without : layout.hasRelocations = false := by
        rw [Bool.eq_false_iff, ne_eq, Layout.hasRelocations_iff]
        omega
      simp only [without, Bool.not_false, ↓reduceIte, List.map_nil]
  | outside outside =>
      rw [if_pos outside]
      split <;> rfl
  | table directory filled inside blocks =>
      have present := Layout.hasRelocations_iff.mpr ⟨directory, filled⟩
      simp only [present, Bool.not_true, Bool.false_eq_true, ↓reduceIte, Nat.not_lt.mpr inside]
      exact blocks.eq_scan bounded

theorem Layout.exists_lists (layout : Layout) (image : Buffer) : ∃ listed, layout.Lists image listed := by
  by_cases present : 5 < layout.directoryCount.toNat ∧ layout.relocations.size.toNat ≠ 0
  · by_cases inside : layout.tableLast ≤ image.size
    · obtain ⟨listed, blocks⟩ := exists_blocksList image layout.tableLast layout.tableStart
      exact ⟨listed, .table present.1 present.2 inside blocks⟩
    · exact ⟨[], .outside (Nat.lt_of_not_le inside)⟩
  · exact ⟨[], .absent (by omega)⟩

/-- The reference lists what a scan finds. -/
theorem Layout.lists_iff (bounded : image.size ≤ wordLimit) :
    layout.Lists image listed ↔ listed = (scan layout image).fixups.map Fixup.listing := by
  obtain ⟨found, lists⟩ := layout.exists_lists image
  constructor
  · exact Layout.Lists.eq_scan bounded
  · intro same
    rwa [same, ← lists.eq_scan bounded]

end Table

/-- Where no fixup touches a byte that the scan reads, relocation is the reference: the table lists certain fixups and
no others, what these make of the image is what relocation leaves, and a success counts them. Relocation succeeds
exactly when the table is in order, and fails otherwise with the first violation and the error that stands for it. -/
theorem relocate_two_phases {layout : Layout} {image : MappedImage}
    (apart : (scan layout image.bytes).Apart) :
    (∃ listed, (∀ other, layout.Lists image.bytes other ↔ other = listed) ∧
        (∀ after, AdjustsAll (image.address - layout.preferredBase) listed image.bytes after ↔
          after = (relocate layout image).image) ∧
        ∀ applied, (relocate layout image).verdict = .ok applied → applied = listed.length) ∧
      ((∃ applied, (relocate layout image).verdict = .ok applied) ↔
        layout.RelocationsInOrder image.bytes) ∧
      ∀ fault error, (relocate layout image).verdict = .error fault ∧ Fault.error fault = error ↔
        layout.FirstRelocationViolation image.bytes fault error := by
  have bounded := Nat.le_of_lt image.size_lt
  have phases := relocate_scan apart
  refine ⟨⟨(scan layout image.bytes).fixups.map Fixup.listing, ?_, ?_, ?_⟩, ?_, ?_⟩
  · exact fun other => Layout.lists_iff bounded
  · have adjusts : AdjustsAll (image.address - layout.preferredBase)
        ((scan layout image.bytes).fixups.map Fixup.listing) image.bytes (relocate layout image).image := by
      rw [phases]
      exact applyFixups_adjusts _ (scan_patches layout)
    intro after
    constructor
    · exact fun adjusted => adjusted.unique adjusts
    · intro same
      rwa [same]
  · intro applied finished
    rw [phases] at finished
    cases stopped : (scan layout image.bytes).fault with
    | some fault =>
        rw [Scan.verdict_of_stopped stopped] at finished
        cases finished
    | none =>
        rw [Scan.verdict_of_finished stopped, Nat.zero_add] at finished
        cases finished
        exact (List.length_map _).symm
  · rw [phases, ← scan_fault_none_iff bounded]
    cases stopped : (scan layout image.bytes).fault with
    | some fault => simp [Scan.verdict_of_stopped stopped]
    | none => simp [Scan.verdict_of_finished stopped]
  · intro fault error
    rw [phases, ← scan_fault_some_iff bounded]
    cases stopped : (scan layout image.bytes).fault with
    | some other => simp [Scan.verdict_of_stopped stopped]
    | none => simp [Scan.verdict_of_finished stopped]

def motleyLayout : Layout where
  preferredBase := 0x400000
  imageSize := 36
  entry := 0
  headersSize := 0
  sectionCount := 0
  sectionTable := 0
  relocations := ⟨16, 20⟩
  directoryCount := 6
  alignment := 8

/-- A loaded image: values of 2, 2, 4 and 8 bytes, and one block with a fixup for each of a kind of its own, then
padding, and an entry of no known kind. -/
def motleyImage : MappedImage where
  bytes := #[0, 0x80, 0, 0x80, 0, 0, 0, 0x80, 0, 0, 0, 0, 0, 0, 0, 0xff,
    0, 0, 0, 0, 20, 0, 0, 0, 0, 0x10, 2, 0x20, 4, 0x30, 8, 0xa0, 0, 0, 0, 0x40]
  address := 0x0123456789ebcdef
  fits := by decide

/-- Each kind adds its own part of the distance, and the fixups in front of the unknown kind are applied. -/
theorem relocate_motleyImage :
    (scan motleyLayout motleyImage.bytes).Apart ∧
      relocate motleyLayout motleyImage =
        ⟨#[0xab, 0x09, 0xef, 0x4d, 0xef, 0xcd, 0xab, 0x09, 0xef, 0xcd, 0xab, 0x89, 0x67, 0x45, 0x23, 0,
          0, 0, 0, 0, 20, 0, 0, 0, 0, 0x10, 2, 0x20, 4, 0x30, 8, 0xa0, 0, 0, 0, 0x40],
          .error (.unknownKind 4 16)⟩ := by
  have apart : (scan motleyLayout motleyImage.bytes).Apart := by decide +kernel
  refine ⟨apart, ?_⟩
  obtain ⟨⟨listed, only, adjusts, -⟩, -, fails⟩ := relocate_two_phases apart
  have before : 16 < motleyLayout.tableLast := by decide
  have accepted : BlockAccepted motleyImage.bytes 16 := by
    constructor <;> decide +kernel
  have counted : 5 < entryCount motleyImage.bytes 16 := by decide +kernel
  have earlier : EntriesInOrder motleyImage.bytes 16 5 := by decide +kernel
  have unknown : EntryViolation motleyImage.bytes.size 16 (blockPage motleyImage.bytes 16)
      (entryAt motleyImage.bytes 16 5) (.unknownKind 4 16) (.unknownFixup 4) := by
    have raw : entryAt motleyImage.bytes 16 5 = 0x4000 := by decide +kernel
    rw [raw]
    exact .unknown (by decide) (by simp [patchWidths])
  have lists : motleyLayout.Lists motleyImage.bytes [(1, 0), (2, 2), (3, 4), (10, 8)] := by
    have listed : entryFixups motleyImage.bytes 16 5 = [(1, 0), (2, 2), (3, 4), (10, 8)] := by decide +kernel
    rw [← listed]
    exact .table (by decide) (by decide) (by decide) (.entry before accepted counted earlier unknown.not_inOrder)
  have stopped := (fails (.unknownKind 4 16) (.unknownFixup 4)).mpr
    ⟨by decide, by decide, .inr ⟨by decide, .entry before accepted counted earlier unknown⟩⟩
  obtain rfl := (only _).mp lists
  refine congrArg₂ Patched.mk ?_ stopped.1
  refine ((adjusts _).mp (.cons (Adds.high.overwrite ?_) (.cons (Adds.low.overwrite ?_)
    (.cons (Adds.highLow.overwrite ?_) (.cons (Adds.dir64.overwrite ?_) .nil))))).symm.trans ?_
  all_goals decide +kernel

end EfiHandoff.Image
