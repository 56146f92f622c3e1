import EfiHandoff.Image.Blueprint
import EfiHandoff.Proofs.Relocation.Scan
import EfiHandoff.Proofs.Written
import Mathlib.Data.List.Perm.Basic
import Mathlib.Data.List.ReduceOption

/-!
# Scanning a table that was encoded

The table of a blueprint has a block for each page with a fixup. A scan of it finds every planned fixup once, page by
page, and reads nothing but the table.
-/

set_option autoImplicit false

namespace EfiHandoff.Image

def plannedFixup (fixup : FixupKind × UInt32) : Fixup := ⟨fixup.1, fixup.2.toNat⟩

section Pages

private theorem distance_toNat (place : UInt32) : (place &&& 0xfff).toNat = place.toNat % 0x1000 := by
  rw [UInt32.toNat_and]
  exact Nat.and_two_pow_sub_one_eq_mod place.toNat 12

private theorem pageOf_toNat (place : UInt32) : (pageOf place).toNat = place.toNat / 0x1000 * 0x1000 := by
  have mask : (0xfffff000 : UInt32).toNat = (2 ^ 20 - 1) <<< 12 := by decide
  have cut : place.toNat / 0x1000 * 0x1000 = (place.toNat >>> 12) <<< 12 := by
    rw [Nat.shiftRight_eq_div_pow, Nat.shiftLeft_eq]
  rw [pageOf, UInt32.toNat_and, mask, cut]
  refine Nat.eq_of_testBit_eq fun bit => ?_
  rw [Nat.testBit_and, Nat.testBit_shiftLeft, Nat.testBit_shiftLeft, Nat.testBit_shiftRight,
    Nat.testBit_two_pow_sub_one]
  by_cases low : bit < 12
  · simp [Nat.not_le.mpr low]
  · obtain ⟨rest, rfl⟩ := Nat.exists_eq_add_of_le (Nat.le_of_not_lt low)
    by_cases kept : rest < 20
    · simp [kept]
    · have absent : place.toNat.testBit (12 + rest) = false :=
        Nat.testBit_lt_two_pow (Nat.lt_of_lt_of_le place.toNat_lt (Nat.pow_le_pow_right (by decide) (by omega)))
      simp [kept, absent]

private theorem mem_insertPage {page other : UInt32} {found : List UInt32} :
    other ∈ insertPage page found ↔ other = page ∨ other ∈ found := by
  induction found with
  | nil => exact List.mem_cons
  | cons first rest ih =>
      rw [insertPage]
      split
      · exact List.mem_cons
      split
      · next same => rw [same, List.mem_cons, or_self_left]
      · rw [List.mem_cons, ih, List.mem_cons, or_left_comm]

private theorem pairwise_insertPage {page : UInt32} {found : List UInt32} (ascending : found.Pairwise (· < ·)) :
    (insertPage page found).Pairwise (· < ·) := by
  induction found with
  | nil => exact List.pairwise_singleton _ _
  | cons first rest ih =>
      obtain ⟨before, others⟩ := List.pairwise_cons.mp ascending
      rw [insertPage]
      split
      · next below =>
          refine List.pairwise_cons.mpr ⟨List.forall_mem_cons.mpr ⟨below, ?_⟩, ascending⟩
          exact fun other member => UInt32.lt_trans below (before other member)
      split
      · exact ascending
      · next notBelow different =>
          refine List.pairwise_cons.mpr ⟨?_, ih others⟩
          intro other member
          rcases mem_insertPage.mp member with rfl | listed
          · exact UInt32.lt_of_le_of_ne (UInt32.not_lt.mp notBelow) (Ne.symm different)
          · exact before other listed

end Pages

namespace Blueprint

variable {plan : Blueprint}

theorem mem_pages {page : UInt32} : page ∈ plan.pages ↔ ∃ fixup ∈ plan.fixups, pageOf fixup.2 = page := by
  unfold pages
  induction plan.fixups with
  | nil => simp
  | cons fixup rest ih => simp only [List.foldr_cons, mem_insertPage, ih, List.exists_mem_cons_iff, eq_comm]

theorem pages_nodup (plan : Blueprint) : plan.pages.Nodup := by
  have ascending : plan.pages.Pairwise (· < ·) := by
    unfold pages
    induction plan.fixups with
    | nil => exact List.Pairwise.nil
    | cons fixup rest ih => exact pairwise_insertPage ih
  exact ascending.imp fun below => UInt32.ne_of_lt below

def pageFixups (plan : Blueprint) (page : UInt32) : List (FixupKind × UInt32) :=
  plan.fixups.filter fun fixup => pageOf fixup.2 = page

end Blueprint

/-- Values sorted into their groups, each group once, are all of them. -/
theorem flatMap_filter_perm {α β : Type} [DecidableEq β] {key : α → β} {keys : List β} {values : List α}
    (distinct : keys.Nodup) (covered : ∀ value ∈ values, key value ∈ keys) :
    (keys.flatMap fun group => values.filter fun value => key value = group).Perm values := by
  induction keys generalizing values with
  | nil =>
      rw [List.eq_nil_iff_forall_not_mem.mpr fun value member => List.not_mem_nil (covered value member)]
      exact .nil
  | cons group rest ih =>
      obtain ⟨own, others⟩ := List.nodup_cons.mp distinct
      let later := values.filter fun value => ! decide (key value = group)
      have same : (rest.flatMap fun other => values.filter fun value => key value = other) =
          rest.flatMap fun other => later.filter fun value => key value = other := by
        refine List.flatMap_congr fun other member => ?_
        rw [List.filter_filter]
        refine List.filter_congr fun value _ => ?_
        have different : other ≠ group := fun same => own (same ▸ member)
        by_cases here : key value = other <;> simp [here, different]
      have covered : ∀ value ∈ later, key value ∈ rest := by
        intro value member
        obtain ⟨listed, away⟩ := List.mem_filter.mp member
        exact (List.mem_cons.mp (covered value listed)).resolve_left (by simpa using away)
      rw [List.flatMap_cons, same]
      exact ((ih others covered).append_left _).trans (List.filter_append_perm _ _)

/-- A scan that is not stopped finds certain fixups, and reads nothing in front of a place. -/
structure Scan.Finds (scan : Scan) (start : Nat) (fixups : List Fixup) : Prop where
  fault : scan.fault = none
  fixups : scan.fixups = fixups
  read : ∀ reading ∈ scan.read, start ≤ reading.start

namespace Scan.Finds

variable {scan later : Scan} {start rest : Nat} {fixups others : List Fixup}

theorem nothing (start : Nat) : Finds ⟨[], [], none⟩ start [] := ⟨rfl, rfl, List.forall_mem_nil _⟩

theorem andThen (finds : scan.Finds start fixups) (goesOn : later.Finds rest others) (behind : start ≤ rest) :
    (scan.andThen later).Finds start (fixups ++ others) := by
  rw [andThen_of_finished finds.fault]
  refine ⟨goesOn.fault, by rw [finds.fixups, goesOn.fixups], ?_⟩
  intro reading member
  rcases List.mem_append.mp member with early | late
  · exact finds.read reading early
  · exact Nat.le_trans behind (goesOn.read reading late)

end Scan.Finds

section Entries

variable {image : Buffer} {size block page place : Nat} {asked : List (Option Fixup)} {entries : List Nat}

theorem FixupKind.ofCode?_code (kind : FixupKind) : ofCode? kind.code = some kind := by cases kind <;> rfl

private theorem FixupKind.code_lt (kind : FixupKind) : kind.code < 0x10 := by cases kind <;> decide

theorem FixupKind.width_pos {kind : FixupKind} (patching : kind ≠ .absolute) : 0 < kind.width := by
  cases kind with
  | absolute => exact absurd rfl patching
  | high | low | highLow | dir64 => decide

private theorem fixupEntry_lt (fixup : FixupKind × UInt32) : fixupEntry fixup < 256 ^ 2 := by
  have kind := fixup.1.code_lt
  have distance := Nat.mod_lt fixup.2.toNat (show 0 < 0x1000 by decide)
  rw [fixupEntry, distance_toNat]
  omega

private theorem entryDemand_fixupEntry {fixup : FixupKind × UInt32} (patching : fixup.1 ≠ .absolute)
    (inside : (plannedFixup fixup).last ≤ size) :
    entryDemand size block (pageOf fixup.2).toNat (fixupEntry fixup) = .ok (some (plannedFixup fixup)) := by
  have distance := Nat.mod_lt fixup.2.toNat (show 0 < 0x1000 by decide)
  have high : fixupEntry fixup / 0x1000 = fixup.1.code := by
    rw [fixupEntry, distance_toNat]
    omega
  have low : (pageOf fixup.2).toNat + fixupEntry fixup % 0x1000 = fixup.2.toNat := by
    rw [fixupEntry, distance_toNat, pageOf_toNat]
    omega
  rw [entryDemand_of_patching (high ▸ fixup.1.ofCode?_code) patching, low]
  exact if_pos inside

private theorem scanEntry_finds {raw : Nat} {fixup : Option Fixup} (reads : image.word place 2 = raw)
    (asks : entryDemand image.size block page raw = .ok fixup) :
    (scanEntry image block page place).Finds place fixup.toList := by
  unfold scanEntry
  rw [reads, asks]
  exact ⟨rfl, rfl, fun reading member => Nat.le_of_eq (by rw [List.mem_singleton.mp member])⟩

def Asks (size block page raw : Nat) (fixup : Option Fixup) : Prop :=
  raw < 256 ^ 2 ∧ entryDemand size block page raw = .ok fixup

private theorem scanEntries_finds (asks : List.Forall₂ (Asks image.size block page) entries asked)
    (holds : image.Holds place (entries.flatMap (Bytes.ofNat 2))) :
    (scanEntries image block page place entries.length).Finds place asked.reduceOption := by
  induction asks generalizing place with
  | nil => exact .nothing _
  | @cons raw fixup entries asked first _ ih =>
      obtain ⟨small, demand⟩ := first
      rw [List.flatMap_cons, Buffer.holds_append, Bytes.length_ofNat] at holds
      obtain ⟨own, others⟩ := holds
      have found := (scanEntry_finds (own.number small) demand).andThen (ih others) (Nat.le_add_right _ _)
      cases fixup with
      | none => exact found
      | some fixup => exact found

end Entries

namespace Blueprint

/-- Every planned fixup patches something, and that lies in an image of `size` bytes. -/
structure Patching (plan : Blueprint) (size : Nat) : Prop where
  kinds : ∀ fixup ∈ plan.fixups, fixup.1 ≠ .absolute
  inside : ∀ fixup ∈ plan.fixups, (plannedFixup fixup).last ≤ size

variable {plan : Blueprint} {image : Buffer} {page : UInt32} {place : Nat}

private theorem blockEntries_asks {size : Nat} (patching : plan.Patching size) (block : Nat) :
    ∃ asked, List.Forall₂ (Asks size block page.toNat) (plan.blockEntries page) asked ∧
      asked.reduceOption = (plan.pageFixups page).map plannedFixup := by
  have listed : List.Forall₂ (Asks size block page.toNat) ((plan.pageFixups page).map fixupEntry)
      ((plan.pageFixups page).map fun fixup => some (plannedFixup fixup)) := by
    rw [List.forall₂_map_left_iff, List.forall₂_map_right_iff, List.forall₂_same]
    intro fixup member
    obtain ⟨member, own⟩ := List.mem_filter.mp member
    have demand : entryDemand size block _ _ = _ :=
      entryDemand_fixupEntry (patching.kinds fixup member) (patching.inside fixup member)
    rw [of_decide_eq_true own] at demand
    exact ⟨fixupEntry_lt fixup, demand⟩
  have found : ((plan.pageFixups page).map fun fixup => some (plannedFixup fixup)).reduceOption =
      (plan.pageFixups page).map plannedFixup := by
    simp [List.reduceOption, List.filterMap_map]
  unfold blockEntries
  dsimp only
  split
  · exact ⟨_, List.rel_append listed (.cons ⟨by decide, rfl⟩ .nil), by simp [List.reduceOption_append, found]⟩
  · exact ⟨_, listed, found⟩

private theorem length_flatMap_word (entries : List Nat) :
    (entries.flatMap (Bytes.ofNat 2)).length = 2 * entries.length := by
  induction entries with
  | nil => rfl
  | cons entry rest ih => rw [List.flatMap_cons, List.length_append, Bytes.length_ofNat, ih, List.length_cons]; omega

theorem length_block (plan : Blueprint) (page : UInt32) :
    (plan.block page).length = blockHeaderSize + 2 * (plan.blockEntries page).length := by
  simp only [block, List.length_append, Bytes.length_ofNat, length_flatMap_word, blockHeaderSize]

/-- The header and the entries of a block where it is written. -/
structure BlockWritten (plan : Blueprint) (page : UInt32) (image : Buffer) (place : Nat) : Prop where
  start : blockPage image place = page.toNat
  size : blockSize image place = (plan.block page).length
  count : entryCount image place = (plan.blockEntries page).length
  entries : image.Holds (place + blockHeaderSize) ((plan.blockEntries page).flatMap (Bytes.ofNat 2))
  inside : place + (plan.block page).length ≤ image.size

private theorem block_written (bounded : image.size < 0x100000000) (holds : image.Holds place (plan.block page)) :
    plan.BlockWritten page image place := by
  have inside := holds.inside (List.ne_nil_of_length_pos (by rw [length_block, blockHeaderSize]; omega))
  have length := length_block plan page
  unfold block at holds
  simp only [Buffer.holds_append, List.length_append, Bytes.length_ofNat] at holds
  obtain ⟨⟨number, size⟩, entries⟩ := holds
  have size : blockSize image place = (plan.block page).length := by
    rw [length]
    exact size.number (by omega)
  exact {
    start := number.number page.toNat_lt
    size
    count := by
      rw [entryCount, size, length]
      omega
    entries
    inside }

theorem BlockWritten.accepted (written : plan.BlockWritten page image place) (reached : page.toNat < image.size) :
    BlockAccepted image place := by
  have inside := written.inside
  have length := length_block plan page
  refine ⟨by omega, ?_, ?_, ?_⟩
  · rw [written.size]
    omega
  · rwa [written.size]
  · rwa [written.start]

private theorem headerRead_start {reading : Reading} (member : reading ∈ headerRead image place) :
    place ≤ reading.start := by
  unfold headerRead at member
  split at member
  · rw [List.mem_singleton.mp member]
  · cases member

theorem BlockWritten.finds (written : plan.BlockWritten page image place) (patching : plan.Patching image.size) :
    (scanBlock image place).Finds place ((plan.pageFixups page).map plannedFixup) := by
  obtain ⟨asked, asks, found⟩ := @blockEntries_asks plan page _ patching place
  have header : Scan.Finds ⟨[], headerRead image place, none⟩ place [] :=
    ⟨rfl, rfl, fun reading => headerRead_start⟩
  unfold scanBlock
  rw [written.start, written.count, ← found]
  exact header.andThen (scanEntries_finds asks written.entries) (Nat.le_add_right _ _)

/-- The scan goes from block to block. -/
theorem scanBlocks_finds {pages : List UInt32} {last : Nat} (patching : plan.Patching image.size)
    (bounded : image.size < 0x100000000) (reached : ∀ page ∈ pages, page.toNat < image.size)
    (holds : image.Holds place (pages.flatMap plan.block))
    (ends : last = place + (pages.flatMap plan.block).length) :
    (scanBlocks image last place).Finds place ((pages.flatMap plan.pageFixups).map plannedFixup) := by
  induction pages generalizing place with
  | nil =>
      have finished : last ≤ place := Nat.le_of_eq ends
      rw [scanBlocks_finished finished]
      exact .nothing _
  | cons page rest ih =>
      obtain ⟨own, others⟩ := List.forall_mem_cons.mp reached
      rw [List.flatMap_cons, Buffer.holds_append] at holds
      rw [List.flatMap_cons, List.length_append, ← Nat.add_assoc] at ends
      obtain ⟨first, later⟩ := holds
      have written := block_written bounded first
      have filled : 0 < (plan.block page).length := by
        rw [length_block, blockHeaderSize]
        omega
      rw [scanBlocks_accepted (Nat.le_trans (Nat.le_of_lt bounded) (by decide)) (by omega) (written.accepted own),
        written.size, List.flatMap_cons, List.map_append]
      exact (written.finds patching).andThen (ih others later ends) (Nat.le_add_right _ _)

/-- The pages together have every planned fixup once. -/
theorem pageFixups_perm (plan : Blueprint) : (plan.pages.flatMap plan.pageFixups).Perm plan.fixups :=
  flatMap_filter_perm plan.pages_nodup fun fixup member => mem_pages.mpr ⟨fixup, member, rfl⟩

theorem table_finds {last : Nat} (patching : plan.Patching image.size) (bounded : image.size < 0x100000000)
    (holds : image.Holds place plan.relocationTable) (ends : last = place + plan.relocationTable.length) :
    ∃ found, (scanBlocks image last place).Finds place found ∧ found.Perm (plan.fixups.map plannedFixup) := by
  refine ⟨_, scanBlocks_finds patching bounded ?_ holds ends, plan.pageFixups_perm.map _⟩
  intro page member
  obtain ⟨fixup, listed, rfl⟩ := mem_pages.mp member
  have inside : fixup.2.toNat + fixup.1.width ≤ image.size := patching.inside fixup listed
  have width := FixupKind.width_pos (patching.kinds fixup listed)
  rw [pageOf_toNat]
  omega

end Blueprint

end EfiHandoff.Image
