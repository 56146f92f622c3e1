import EfiHandoff.Proofs.Relocation.Guarded

/-!
# Relocation stays inside the image

The guarded walk never meets a fault of its own and agrees with relocation, whatever the table holds and however
the table changes while it is read. So relocation ends within the budget of blocks, no sum on its way leaves the
64-bit range, and every byte it changes is one that an entry it read names.
-/

set_option autoImplicit false

namespace EfiHandoff.Image

def patched (delta : UInt64) (image : MappedImage) (fixup : Fixup) : MappedImage :=
  image.overwritten fixup.target (Bytes.ofNat fixup.kind.width
    (image.bytes.word fixup.target fixup.kind.width + fixup.kind.addend delta))

@[simp] theorem patched_bytes (delta : UInt64) (image : MappedImage) (fixup : Fixup) :
    (patched delta image fixup).bytes = fixup.apply delta image.bytes := rfl

/-- The byte at `index` lies in what the entry `raw` patches, and that lies inside an image of `size` bytes. -/
def EntryPatches (size page raw index : Nat) : Prop :=
  ∃ kind, FixupKind.ofCode? (raw / 0x1000) = some kind ∧ kind ≠ .absolute ∧
    page + raw % 0x1000 ≤ index ∧ index < page + raw % 0x1000 + kind.width ∧
    page + raw % 0x1000 + kind.width ≤ size

section Entries

variable {block page : Nat} {image : MappedImage}

private theorem guardedFixup_inside (delta : UInt64) {kind : FixupKind} {target : Nat}
    (inside : target + kind.width ≤ image.bytes.size) :
    guardedFixup kind delta target image = .ok (patched delta image ⟨kind, target⟩) := by
  have accepted := Extent.within?_of_le (Nat.le_of_lt image.size_lt) inside
  have word : (image.bytes.slice target kind.width).word 0 kind.width =
      image.bytes.word target kind.width := by
    rw [Buffer.word_slice _ _ _ _ _ (by omega), Nat.add_zero]
  have written := image.write?_of_inside target
    (Bytes.ofNat kind.width (image.bytes.word target kind.width + kind.addend delta))
    (by rw [Bytes.length_ofNat]; exact inside)
  rw [Bytes.length_ofNat] at written
  simp only [guardedFixup, MappedImage.size, accepted, image.read?_of_inside inside, word, written]
  rfl

private theorem guardedFixup_outside (delta : UInt64) {kind : FixupKind} {target : Nat}
    (outside : image.bytes.size < target + kind.width) :
    guardedFixup kind delta target image = .error (.reported (.targetOutside target)) := by
  have refused := (Extent.within?_eq_none_iff (Nat.le_of_lt image.size_lt)).mpr outside
  simp only [guardedFixup, MappedImage.size, refused]

variable {delta : UInt64}

/-- An entry is handled as it demands. -/
theorem guardedEntry_eq {raw : Nat} (small : page < 0x100000000) :
    guardedEntry delta block page raw image =
      match entryDemand image.bytes.size block page raw with
      | .error fault => .error (.reported fault)
      | .ok none => .ok (image, 0)
      | .ok (some fixup) => .ok (patched delta image fixup, 1) := by
  have distance : raw % 0x1000 < 0x1000 := Nat.mod_lt _ (by omega)
  have fits : page + raw % 0x1000 < wordLimit := by unfold wordLimit; omega
  unfold guardedEntry entryDemand
  cases decoded : FixupKind.ofCode? (raw / 0x1000) with
  | none => rfl
  | some kind =>
      by_cases inside : page + raw % 0x1000 + kind.width ≤ image.bytes.size
      · have applied := guardedFixup_inside delta inside
        cases kind <;> simp only [checkedAdd_of_lt fits, applied, inside, ↓reduceIte, Except.map]
      · have refused := guardedFixup_outside delta (Nat.lt_of_not_le inside)
        cases kind <;> simp only [checkedAdd_of_lt fits, refused, inside, ↓reduceIte, Except.map]

private theorem entryPlace_of_lt {index : Nat} (fits : block + blockHeaderSize + 2 * index < wordLimit) :
    entryPlace block index = some (block + blockHeaderSize + 2 * index) := by
  rw [entryPlace, checkedAdd_of_lt (by omega), Option.bind_some, checkedAdd_of_lt fits]

/-- An entry inside the image is read where it stands and handled as it demands. -/
theorem guardedEntries_succ {index count applied place : Nat} (small : page < 0x100000000)
    (stands : place = block + blockHeaderSize + 2 * index) (inside : place + 2 ≤ image.bytes.size) :
    guardedEntries delta block page index (count + 1) applied image =
      match entryDemand image.bytes.size block page (image.bytes.word place 2) with
      | .error fault => ⟨image, [image.bytes.word place 2], .error (.reported fault)⟩
      | .ok none =>
          (guardedEntries delta block page (index + 1) count applied image).after
            (image.bytes.word place 2)
      | .ok (some fixup) =>
          (guardedEntries delta block page (index + 1) count (applied + 1)
            (patched delta image fixup)).after (image.bytes.word place 2) := by
  have bounded := image.size_lt
  have found : entryPlace block index = some place := by
    rw [stands]
    exact entryPlace_of_lt (by omega)
  have accepted := Extent.within?_of_le (Nat.le_of_lt bounded) inside
  have word : (image.bytes.slice place 2).word 0 2 = image.bytes.word place 2 := by
    rw [Buffer.word_slice _ _ _ _ _ (by omega), Nat.add_zero]
  simp only [guardedEntries, found, MappedImage.size, accepted, Option.bind_some,
    image.read?_of_inside inside, word, guardedEntry_eq small]
  cases entryDemand image.bytes.size block page (image.bytes.word place 2) with
  | error fault => rfl
  | ok demand => cases demand <;> rfl

end Entries

/-- A guarded walk over the entries of a block describes a plain one: they agree, no entry is missed, and
every byte that changes belongs to an entry that was read. -/
structure GuardedEntries.Describes (walk : GuardedEntries) (before : MappedImage) (page : Nat)
    (plain : Patched) : Prop where
  image : walk.image.bytes = plain.image
  address : walk.image.address = before.address
  verdict : walk.verdict = plain.verdict.mapError .reported
  found : plain.verdict ≠ .error .entryOutside
  confined : ∀ index, plain.image[index]? ≠ before.bytes[index]? →
    ∃ raw ∈ walk.read, EntryPatches before.bytes.size page raw index

namespace GuardedEntries.Describes

variable {walk : GuardedEntries} {before : MappedImage} {page : Nat} {plain : Patched}

/-- An entry that asks for nothing may be put in front. -/
theorem after (rest : walk.Describes before page plain) (raw : Nat) :
    (walk.after raw).Describes before page plain where
  image := rest.image
  address := rest.address
  verdict := rest.verdict
  found := rest.found
  confined := by
    intro index changed
    obtain ⟨later, member, patches⟩ := rest.confined index changed
    exact ⟨later, List.mem_cons_of_mem _ member, patches⟩

/-- An entry that asks for a fixup may be put in front of the walk that goes on after the fixup. -/
theorem after_fixup {delta : UInt64} {fixup : Fixup} {block raw : Nat}
    (asked : entryDemand before.bytes.size block page raw = .ok (some fixup))
    (rest : walk.Describes (patched delta before fixup) page plain) :
    (walk.after raw).Describes before page plain where
  image := rest.image
  address := rest.address
  verdict := rest.verdict
  found := rest.found
  confined := by
    intro index changed
    obtain ⟨decoded, patching, target, inside⟩ := entryDemand_some asked
    by_cases later : plain.image[index]? = (fixup.apply delta before.bytes)[index]?
    · have touched : ¬ (index < fixup.target ∨ fixup.last ≤ index) := by
        intro outside
        exact changed (later.trans (Fixup.apply_frame delta before.bytes outside))
      unfold Fixup.last at touched inside
      exact ⟨raw, List.mem_cons_self, fixup.kind, decoded, patching, by omega, by omega, by omega⟩
    · obtain ⟨other, member, patches⟩ := rest.confined index later
      rw [patched_bytes, Fixup.size_apply] at patches
      exact ⟨other, List.mem_cons_of_mem _ member, patches⟩

end GuardedEntries.Describes

theorem guardedEntries_describes {delta : UInt64} {block page : Nat} (small : page < 0x100000000)
    {index count applied : Nat} {image : MappedImage}
    (inside : block + blockHeaderSize + 2 * (index + count) ≤ image.bytes.size) :
    (guardedEntries delta block page index count applied image).Describes image page
      (applyEntries delta block page (block + blockHeaderSize + 2 * index) count applied
        image.bytes) := by
  induction count generalizing index applied image with
  | zero => exact ⟨rfl, rfl, rfl, (by intro same; cases same), fun _ changed => absurd rfl changed⟩
  | succ count ih =>
      have entryInside : block + blockHeaderSize + 2 * index + 2 ≤ image.bytes.size := by omega
      rw [guardedEntries_succ small rfl entryInside,
        applyEntries_succ (Nat.le_of_lt image.size_lt) entryInside]
      cases demand : entryDemand image.bytes.size block page
          (image.bytes.word (block + blockHeaderSize + 2 * index) 2) with
      | error fault =>
          refine ⟨rfl, rfl, rfl, ?_, fun _ changed => absurd rfl changed⟩
          intro same
          cases same
          exact entryDemand_ne_entryOutside _ _ _ _ demand
      | ok asked =>
          cases asked with
          | none =>
              have rest := @ih (index + 1) applied image (by omega)
              exact rest.after _
          | some fixup =>
              have rest := @ih (index + 1) (applied + 1) (patched delta image fixup)
                (by simp only [patched_bytes, Fixup.size_apply]; omega)
              exact rest.after_fixup demand

section Blocks

variable {delta : UInt64} {last place : Nat} {image : MappedImage}

/-- The header of an accepted block is accepted under guard, with the same numbers. -/
theorem guardedHeader_accepted (accepted : BlockAccepted image.bytes place) :
    guardedHeader image place =
      .ok ⟨blockPage image.bytes place, place + blockSize image.bytes place,
        entryCount image.bytes place⟩ := by
  have bounded := image.size_lt
  have header := Extent.within?_of_le (Nat.le_of_lt bounded) accepted.header
  have reached := accepted.inside
  have fits : place + blockSize image.bytes place < wordLimit := by omega
  have minimal := accepted.minimal
  have page : (image.bytes.slice place blockHeaderSize).word 0 4 = blockPage image.bytes place :=
    Buffer.word_slice _ _ _ _ _ (by decide)
  have size : (image.bytes.slice place blockHeaderSize).word 4 4 = blockSize image.bytes place :=
    Buffer.word_slice _ _ _ _ _ (by decide)
  simp only [guardedHeader, MappedImage.size, header, Option.bind_some,
    image.read?_of_inside accepted.header, page, size, Nat.not_lt.mpr minimal, ↓reduceIte,
    checkedAdd_of_lt fits, Option.isNone_iff_eq_none, Position.upTo?_eq_none_iff,
    Nat.not_lt.mpr reached, Position.within?_eq_none_iff, Nat.not_le.mpr accepted.page, checkedSub,
    minimal, entryCount]

/-- A block header that relocation refuses is refused under guard for the same reason. -/
theorem guardedHeader_refused {fault : RelocationFault} (low : place + 0x100000000 ≤ wordLimit)
    (refused : blockAt image.bytes place = .error fault) :
    guardedHeader image place = .error (.reported fault) := by
  have bounded := image.size_lt
  rw [blockAt_eq (Nat.le_of_lt bounded)] at refused
  unfold guardedHeader
  by_cases outside : image.bytes.size < place + blockHeaderSize
  · rw [if_pos outside] at refused
    cases refused
    simp only [MappedImage.size, (Extent.within?_eq_none_iff (Nat.le_of_lt bounded)).mpr outside,
      Option.bind_none]
  · have header := Nat.le_of_not_lt outside
    have small := blockSize_lt image.bytes place
    have fits : place + blockSize image.bytes place < wordLimit := by omega
    have page : (image.bytes.slice place blockHeaderSize).word 0 4 = blockPage image.bytes place :=
      Buffer.word_slice _ _ _ _ _ (by decide)
    have size : (image.bytes.slice place blockHeaderSize).word 4 4 = blockSize image.bytes place :=
      Buffer.word_slice _ _ _ _ _ (by decide)
    rw [if_neg outside] at refused
    simp only [MappedImage.size, Extent.within?_of_le (Nat.le_of_lt bounded) header,
      Option.bind_some, image.read?_of_inside header, page, size, checkedAdd_of_lt fits,
      Option.isNone_iff_eq_none, Position.upTo?_eq_none_iff, Position.within?_eq_none_iff]
    by_cases minimal : blockHeaderSize ≤ blockSize image.bytes place
    · rw [dif_pos minimal] at refused
      rw [if_neg (Nat.not_lt.mpr minimal)]
      by_cases beyond : image.bytes.size < place + blockSize image.bytes place
      · rw [if_pos beyond] at refused
        cases refused
        rw [if_pos beyond]
      · rw [if_neg beyond] at refused
        rw [if_neg beyond]
        by_cases lost : image.bytes.size ≤ blockPage image.bytes place
        · rw [if_pos lost] at refused
          cases refused
          rw [if_pos lost]
        · rw [if_neg lost] at refused
          cases refused
    · rw [dif_neg minimal] at refused
      cases refused
      rw [if_pos (Nat.lt_of_not_le minimal)]

end Blocks

/-- A guarded walk over blocks describes a plain one: they agree, no entry is missed, and every byte that
changes belongs to an entry that was read in a block that was entered. -/
structure GuardedWalk.Describes (walk : GuardedWalk) (before : MappedImage) (plain : Patched) :
    Prop where
  image : walk.image.bytes = plain.image
  address : walk.image.address = before.address
  verdict : walk.verdict = plain.verdict.mapError .reported
  found : plain.verdict ≠ .error .entryOutside
  confined : ∀ index, plain.image[index]? ≠ before.bytes[index]? →
    ∃ block ∈ walk.entered, ∃ raw ∈ block.entries,
      EntryPatches before.bytes.size block.page raw index

namespace GuardedWalk.Describes

variable {before : MappedImage} {page : Nat} {entries : GuardedEntries} {plain : Patched}

/-- The walk may stop in a block whose entries it was reading. -/
theorem stopped {fault : GuardFault} (place : Nat) (walked : entries.Describes before page plain)
    (refused : entries.verdict = .error fault) :
    GuardedWalk.Describes ⟨entries.image, [⟨place, page, entries.read⟩], .error fault⟩ before
      plain where
  image := walked.image
  address := walked.address
  verdict := refused.symm.trans walked.verdict
  found := walked.found
  confined := by
    intro index changed
    obtain ⟨raw, member, patches⟩ := walked.confined index changed
    exact ⟨_, List.mem_singleton_self _, raw, member, patches⟩

/-- A block whose entries were all handled may be put in front of the walk that goes on after it. -/
theorem after {walk : GuardedWalk} {rest : Patched} (place : Nat)
    (walked : entries.Describes before page plain)
    (kept : entries.image.bytes.size = before.bytes.size)
    (further : walk.Describes entries.image rest) :
    (walk.after ⟨place, page, entries.read⟩).Describes before rest where
  image := further.image
  address := further.address.trans walked.address
  verdict := further.verdict
  found := further.found
  confined := by
    intro index changed
    by_cases later : rest.image[index]? = entries.image.bytes[index]?
    · rw [later, walked.image] at changed
      obtain ⟨raw, member, patches⟩ := walked.confined index changed
      exact ⟨_, List.mem_cons_self, raw, member, patches⟩
    · obtain ⟨block, entered, raw, member, patches⟩ := further.confined index later
      rw [kept] at patches
      exact ⟨block, List.mem_cons_of_mem _ entered, raw, member, patches⟩

end GuardedWalk.Describes

/-- The header check never says that an entry lies outside. -/
theorem blockAt_ne_entryOutside {image : Buffer} (bounded : image.size ≤ wordLimit) (place : Nat) :
    blockAt image place ≠ .error .entryOutside := by
  intro same
  rw [blockAt_eq bounded] at same
  split at same
  · cases same
  split at same
  · split at same
    · cases same
    split at same <;> cases same
  · cases same

theorem guardedBlocks_describes {delta : UInt64} {last budget place applied : Nat}
    {image : MappedImage} (enough : last ≤ place + 8 * budget)
    (low : last + 0x100000000 ≤ wordLimit) :
    (guardedBlocks delta last budget place applied image).Describes image
      (applyBlocks delta last place applied image.bytes) := by
  induction budget generalizing place applied image with
  | zero =>
      have reached : last ≤ place := by omega
      rw [guardedBlocks, if_neg (Nat.not_lt.mpr reached), applyBlocks_finished reached]
      exact ⟨rfl, rfl, rfl, (by intro same; cases same), fun _ changed => absurd rfl changed⟩
  | succ budget ih =>
      have bounded := Nat.le_of_lt image.size_lt
      by_cases before : place < last
      · rw [guardedBlocks, if_pos before]
        cases found : blockAt image.bytes place with
        | error fault =>
            rw [applyBlocks_refused before found, guardedHeader_refused (by omega) found]
            refine ⟨rfl, rfl, rfl, ?_, fun _ changed => absurd rfl changed⟩
            intro same
            cases same
            exact blockAt_ne_entryOutside bounded place found
        | ok block =>
            -- an accepted block is 8 bytes long or more, so one of the budget pays for it
            have accepted := (blockAt_ok bounded found).1
            have minimal := accepted.minimal
            have inside := Nat.le_trans (entries_end minimal) accepted.inside
            rw [guardedHeader_accepted accepted, applyBlocks_accepted bounded before accepted]
            have walked := @guardedEntries_describes delta place _
              (blockPage_lt image.bytes place) 0 (entryCount image.bytes place) applied image
              (by simpa only [Nat.zero_add] using inside)
            rw [Nat.mul_zero, Nat.add_zero] at walked
            have agreed := walked.verdict
            dsimp only
            cases verdict : (applyEntries delta place (blockPage image.bytes place)
                (place + blockHeaderSize) (entryCount image.bytes place) applied image.bytes).verdict with
            | error fault =>
                rw [verdict] at agreed
                rw [agreed]
                exact .stopped place walked agreed
            | ok applied' =>
                rw [verdict] at agreed
                rw [agreed]
                have kept := (congrArg Array.size walked.image).trans size_applyEntries
                unfold blockHeaderSize at minimal
                let entries := guardedEntries delta place (blockPage image.bytes place) 0
                  (entryCount image.bytes place) applied image
                have further := @ih (place + blockSize image.bytes place) applied' entries.image
                  (by omega)
                rw [walked.image] at further
                exact .after place walked kept further
      · have reached := Nat.le_of_not_lt before
        rw [guardedBlocks, if_neg before, applyBlocks_finished reached]
        exact ⟨rfl, rfl, rfl, (by intro same; cases same), fun _ changed => absurd rfl changed⟩

private theorem length_entered (delta : UInt64) (last budget place applied : Nat) (image : MappedImage) :
    (guardedBlocks delta last budget place applied image).entered.length ≤ budget := by
  induction budget generalizing place applied image with
  | zero =>
      unfold guardedBlocks
      split <;> exact Nat.le_refl 0
  | succ budget ih =>
      unfold guardedBlocks
      by_cases before : place < last
      · rw [if_pos before]
        cases guardedHeader image place with
        | error => exact Nat.zero_le _
        | ok header =>
            dsimp only
            cases (guardedEntries delta place header.page 0 header.count applied image).verdict with
            | error => exact Nat.succ_le_succ (Nat.zero_le _)
            | ok applied' => exact Nat.succ_le_succ (ih header.next applied' _)
      · rw [if_neg before]
        exact Nat.zero_le _

theorem guardedRelocate_describes (layout : Layout) (image : MappedImage) :
    (guardedRelocate layout image).Describes image (relocate layout image) ∧
      (guardedRelocate layout image).entered.length ≤ layout.blockBudget := by
  have bounded := Nat.le_of_lt image.size_lt
  cases present : layout.hasRelocations with
  | false =>
      rw [relocate_absent present, guardedRelocate, present]
      exact ⟨⟨rfl, rfl, rfl, (by intro same; cases same), fun _ changed => absurd rfl changed⟩, Nat.zero_le _⟩
  | true =>
      by_cases inside : layout.tableLast ≤ image.bytes.size
      · have start := layout.relocations.start.toNat_lt
        have size := layout.relocations.size.toNat_lt
        have low : layout.tableLast + 0x100000000 ≤ wordLimit := by
          unfold Layout.tableLast wordLimit
          omega
        have enough : layout.tableLast ≤ layout.tableStart + 8 * layout.blockBudget := by
          unfold Layout.tableLast Layout.tableStart Layout.blockBudget
          omega
        have accepted := Extent.within?_of_le bounded inside
        have last : checkedAdd layout.relocations.start.toNat layout.relocations.size.toNat =
            some layout.tableLast :=
          checkedAdd_of_lt (show layout.tableLast < wordLimit by omega)
        have walked : guardedRelocate layout image = guardedBlocks (layout.delta image.address)
            layout.tableLast layout.blockBudget layout.tableStart 0 image := by
          simp only [guardedRelocate, present, Bool.not_true, Bool.false_eq_true, ↓reduceIte,
            MappedImage.size, accepted, last]
          rfl
        rw [walked, relocate_inside present inside]
        exact ⟨guardedBlocks_describes enough low, length_entered _ _ _ _ _ _⟩
      · have outside := Nat.lt_of_not_le inside
        have refused := (Extent.within?_eq_none_iff bounded).mpr outside
        rw [relocate_outside present outside]
        simp only [guardedRelocate, present, Bool.not_true, Bool.false_eq_true, ↓reduceIte,
          MappedImage.size, refused]
        exact ⟨⟨rfl, rfl, rfl, (by intro same; cases same), fun _ changed => absurd rfl changed⟩, Nat.zero_le _⟩

/-- Whatever the table says, and even while the walk patches the table itself: relocation ends after no more
blocks than the table has room for, keeps the length of the image, never says that an entry of an accepted
block could not be read, and changes a byte only where an entry it read patches inside the image. The guarded
walk that ends as relocation does is the one whose sums all fit and whose accesses all succeed. -/
theorem relocate_confined (layout : Layout) (image : MappedImage) :
    let walk := guardedRelocate layout image
    let relocated := relocate layout image
    walk.image.bytes = relocated.image ∧
      walk.image.address = image.address ∧
      walk.verdict = relocated.verdict.mapError .reported ∧
      relocated.verdict ≠ .error .entryOutside ∧
      relocated.image.size = image.bytes.size ∧
      walk.entered.length ≤ layout.blockBudget ∧
      ∀ index, relocated.image[index]? ≠ image.bytes[index]? →
        ∃ block ∈ walk.entered, ∃ raw ∈ block.entries,
          EntryPatches image.bytes.size block.page raw index := by
  obtain ⟨described, budgeted⟩ := guardedRelocate_describes layout image
  exact ⟨described.image, described.address, described.verdict, described.found, size_relocate,
    budgeted, described.confined⟩

end EfiHandoff.Image
