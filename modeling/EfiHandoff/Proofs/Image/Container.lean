import EfiHandoff.Image.Container
import EfiHandoff.Proofs.Bounds

/-!
# The slice that is chosen

The first entry of the table that is for the wanted processor, or does not lie in the file, decides which part of a
universal binary is used. Behind it nothing is looked at, however many entries the table claims to have.
-/

set_option autoImplicit false

namespace EfiHandoff.Image

def sliceEntry (index : Nat) : Nat := containerHeaderSize + index * sliceEntrySize

def sliceOffset (file : Buffer) (index : Nat) : Nat := file.word (sliceEntry index + 8) 4

def sliceSize (file : Buffer) (index : Nat) : Nat := file.word (sliceEntry index + 12) 4

/-- The first entry of a universal binary for the wanted processor is number `index`, and its slice is `image`. -/
structure Carries (file : Buffer) (cpu : UInt32) (index : Nat) (image : Buffer) : Prop where
  magic : file.word 0 4 = containerMagic
  counted : index < file.word 4 4
  inside : sliceEntry index + sliceEntrySize ≤ file.size
  earlier : ∀ other < index, file.word (sliceEntry other) 4 ≠ cpu.toNat
  wanted : file.word (sliceEntry index) 4 = cpu.toNat
  room : file.word (sliceEntry index + 8) 4 + file.word (sliceEntry index + 12) 4 ≤ file.size
  holds : file.slice (file.word (sliceEntry index + 8) 4) (file.word (sliceEntry index + 12) 4) = image

/-- Entry number `index` lies in the file and is for another processor. -/
structure PassedOver (file : Buffer) (cpu : UInt32) (index : Nat) : Prop where
  inside : sliceEntry index + sliceEntrySize ≤ file.size
  other : file.word (sliceEntry index) 4 ≠ cpu.toNat

/-- What the search comes to when it ends at entry number `index`. -/
inductive Decides (file : Buffer) (cpu : UInt32) (index : Nat) : Except ContainerFault Slice → Prop where
  | truncated (ended : file.size < sliceEntry index + sliceEntrySize) :
      Decides file cpu index (.error (.tableTruncated index))
  | outside (inside : sliceEntry index + sliceEntrySize ≤ file.size)
      (wanted : file.word (sliceEntry index) 4 = cpu.toNat)
      (beyond : file.size < sliceOffset file index + sliceSize file index) :
      Decides file cpu index (.error (.sliceOutside (sliceOffset file index) (sliceSize file index) file.size))
  | chosen (inside : sliceEntry index + sliceEntrySize ≤ file.size)
      (wanted : file.word (sliceEntry index) 4 = cpu.toNat)
      (room : sliceOffset file index + sliceSize file index ≤ file.size) :
      Decides file cpu index (.ok ⟨index, sliceOffset file index, sliceSize file index⟩)

structure SliceScan where
  verdict : Except ContainerFault Slice
  looked : Nat

/-- The first of `count` entries from number `first` on that is not passed over is the last that is looked at, and
decides. -/
inductive FirstDecision (file : Buffer) (cpu : UInt32) (first count : Nat) : SliceScan → Prop where
  | decided {before : Nat} {verdict : Except ContainerFault Slice} (counted : before < count)
      (earlier : ∀ other < before, PassedOver file cpu (other + first))
      (decides : Decides file cpu (before + first) verdict) :
      FirstDecision file cpu first count ⟨verdict, before + 1⟩
  | exhausted (earlier : ∀ other < count, PassedOver file cpu (other + first)) :
      FirstDecision file cpu first count ⟨.error (.noSlice cpu), count⟩

/-- What the search comes to if it ends at entry number `index`; nothing if it goes on. -/
def verdictOn (file : Buffer) (cpu : UInt32) (index : Nat) : Option (Except ContainerFault Slice) :=
  if sliceEntry index + sliceEntrySize ≤ file.size then
    if file.word (sliceEntry index) 4 = cpu.toNat then
      if sliceOffset file index + sliceSize file index ≤ file.size then
        some (.ok ⟨index, sliceOffset file index, sliceSize file index⟩)
      else some (.error (.sliceOutside (sliceOffset file index) (sliceSize file index) file.size))
    else none
  else some (.error (.tableTruncated index))

/-- The search of `findSlice`, with a count of the entries it looks at. -/
def scanSlices (file : Buffer) (cpu : UInt32) (index : Nat) : (count : Nat) → SliceScan
  | 0 => ⟨.error (.noSlice cpu), 0⟩
  | count + 1 =>
      match verdictOn file cpu index with
      | some verdict => ⟨verdict, 1⟩
      | none =>
          let rest := scanSlices file cpu (index + 1) count
          ⟨rest.verdict, rest.looked + 1⟩

section Search

variable {file : Buffer} {cpu : UInt32} {index first count : Nat} {verdict : Except ContainerFault Slice}

theorem verdictOn_eq_none_iff : verdictOn file cpu index = none ↔ PassedOver file cpu index := by
  unfold verdictOn
  constructor
  · intro passed
    by_cases inside : sliceEntry index + sliceEntrySize ≤ file.size
    · by_cases wanted : file.word (sliceEntry index) 4 = cpu.toNat
      · rw [if_pos inside, if_pos wanted] at passed
        split at passed <;> cases passed
      · exact ⟨inside, wanted⟩
    · rw [if_neg inside] at passed
      cases passed
  · intro passed
    rw [if_pos passed.inside, if_neg passed.other]

theorem verdictOn_eq_some_iff : verdictOn file cpu index = some verdict ↔ Decides file cpu index verdict := by
  unfold verdictOn
  constructor
  · intro decided
    by_cases inside : sliceEntry index + sliceEntrySize ≤ file.size
    · rw [if_pos inside] at decided
      by_cases wanted : file.word (sliceEntry index) 4 = cpu.toNat
      · rw [if_pos wanted] at decided
        by_cases room : sliceOffset file index + sliceSize file index ≤ file.size
        · rw [if_pos room] at decided
          obtain rfl := Option.some.inj decided
          exact .chosen inside wanted room
        · rw [if_neg room] at decided
          obtain rfl := Option.some.inj decided
          exact .outside inside wanted (Nat.lt_of_not_le room)
      · rw [if_neg wanted] at decided
        cases decided
    · rw [if_neg inside] at decided
      obtain rfl := Option.some.inj decided
      exact .truncated (Nat.lt_of_not_le inside)
  · intro decides
    cases decides with
    | truncated ended => rw [if_neg (Nat.not_le.mpr ended)]
    | outside inside wanted beyond => rw [if_pos inside, if_pos wanted, if_neg (Nat.not_le.mpr beyond)]
    | chosen inside wanted room => rw [if_pos inside, if_pos wanted, if_pos room]

private theorem Decides.not_passed (decides : Decides file cpu index verdict) : ¬ PassedOver file cpu index := by
  intro passed
  rw [← verdictOn_eq_none_iff, verdictOn_eq_some_iff.mpr decides] at passed
  cases passed

/-- The places in the table, and the slices it names, are far from the end of the 64-bit range. -/
theorem findSlice_step (counted : index < 0x100000000) : findSlice file cpu index (count + 1) =
    (verdictOn file cpu index).getD (findSlice file cpu (index + 1) count) := by
  have entry : sliceEntry index + sliceEntrySize ≤ wordLimit := by
    unfold sliceEntry containerHeaderSize sliceEntrySize wordLimit
    omega
  have slice : sliceOffset file index + sliceSize file index ≤ wordLimit := by
    have offset : sliceOffset file index < 256 ^ 4 := Buffer.word_lt file _ 4
    have size : sliceSize file index < 256 ^ 4 := Buffer.word_lt file _ 4
    unfold wordLimit
    omega
  rw [findSlice, verdictOn]
  dsimp only
  rw [← sliceEntry, ← sliceOffset, ← sliceSize, Extent.within?_eq_ite entry, Extent.within?_eq_ite slice]
  by_cases inside : sliceEntry index + sliceEntrySize ≤ file.size
  · by_cases wanted : file.word (sliceEntry index) 4 = cpu.toNat
    · by_cases room : sliceOffset file index + sliceSize file index ≤ file.size
      · simp only [inside, wanted, room, ↓reduceIte, Option.getD_some]
      · simp only [inside, wanted, room, ↓reduceIte, Option.getD_some]
    · simp only [inside, wanted, ↓reduceIte, Option.getD_none]
  · simp only [inside, ↓reduceIte, Option.getD_some]

private theorem scanSlices_verdict (counted : index + count ≤ 0x100000000) :
    (scanSlices file cpu index count).verdict = findSlice file cpu index count := by
  induction count generalizing index with
  | zero => rfl
  | succ count ih =>
      rw [findSlice_step (by omega), scanSlices]
      cases verdictOn file cpu index with
      | some verdict => rfl
      | none => exact ih (by omega)

private theorem scanSlices_first : FirstDecision file cpu first count (scanSlices file cpu first count) := by
  induction count generalizing first with
  | zero => exact .exhausted nofun
  | succ count ih =>
      rw [scanSlices]
      cases found : verdictOn file cpu first with
      | some verdict =>
          refine .decided (Nat.succ_pos count) nofun ?_
          rw [Nat.zero_add]
          exact verdictOn_eq_some_iff.mp found
      | none =>
          have passed := verdictOn_eq_none_iff.mp found
          have shifted {before : Nat} (earlier : ∀ other < before, PassedOver file cpu (other + (first + 1))) :
              ∀ other < before + 1, PassedOver file cpu (other + first) := by
            intro other lower
            cases other with
            | zero =>
                rw [Nat.zero_add]
                exact passed
            | succ other =>
                rw [Nat.add_right_comm]
                exact earlier other (by omega)
          have rest := @ih (first + 1)
          generalize scanSlices file cpu (first + 1) count = scan at rest
          cases rest with
          | @decided before _ counted earlier decides =>
              rw [← Nat.add_assoc, Nat.add_right_comm] at decides
              exact .decided (Nat.succ_lt_succ counted) (shifted earlier) decides
          | exhausted earlier => exact .exhausted (shifted earlier)

theorem FirstDecision.unique {left right : SliceScan} (one : FirstDecision file cpu first count left)
    (two : FirstDecision file cpu first count right) : left = right := by
  cases one with
  | @decided before verdict counted earlier decides =>
      cases two with
      | @decided place other inside passed found =>
          obtain lower | rfl | upper := Nat.lt_trichotomy before place
          · exact absurd (passed before lower) decides.not_passed
          · have same := (verdictOn_eq_some_iff.mpr decides).symm.trans (verdictOn_eq_some_iff.mpr found)
            obtain rfl := Option.some.inj same
            rfl
          · exact absurd (earlier place upper) found.not_passed
      | exhausted passed => exact absurd (passed before counted) decides.not_passed
  | exhausted earlier =>
      cases two with
      | @decided place _ inside _ found => exact absurd (earlier place inside) found.not_passed
      | exhausted => rfl

/-- Entries that are passed over lie in the file. -/
theorem passed_le (earlier : ∀ other < count, PassedOver file cpu other) :
    count ≤ file.size / sliceEntrySize := by
  cases count with
  | zero => exact Nat.zero_le _
  | succ last =>
      have inside := (earlier last (Nat.lt_succ_self last)).inside
      unfold sliceEntry sliceEntrySize at inside
      unfold sliceEntrySize
      omega

theorem FirstDecision.looked_le {scan : SliceScan} (found : FirstDecision file cpu 0 count scan) :
    scan.looked ≤ file.size / sliceEntrySize + 1 := by
  cases found with
  | decided _ earlier => exact Nat.succ_le_succ (passed_le earlier)
  | exhausted earlier => exact Nat.le_succ_of_le (passed_le earlier)

/-- More entries than the file has room for make no difference. -/
theorem scanSlices_of_room {few : Nat} (room : file.size / sliceEntrySize < few) (fewer : few ≤ count) :
    scanSlices file cpu 0 count = scanSlices file cpu 0 few := by
  have found : FirstDecision file cpu 0 few (scanSlices file cpu 0 few) := scanSlices_first
  generalize scanSlices file cpu 0 few = scan at found
  cases found with
  | decided counted earlier decides =>
      exact scanSlices_first.unique (.decided (Nat.lt_of_lt_of_le counted fewer) earlier decides)
  | exhausted earlier => exact absurd (passed_le earlier) (Nat.not_le.mpr room)

end Search

structure Universal (file : Buffer) : Prop where
  header : containerHeaderSize ≤ file.size
  magic : file.word 0 4 = containerMagic

/-- What becomes of a file: it is no universal binary, or the first entry that is not passed over decides, or all
entries are for other processors. -/
inductive Selection (file : Buffer) (cpu : UInt32) : Except ContainerFault (Option Slice) → Prop where
  | plain (other : ¬ Universal file) : Selection file cpu (.ok none)
  | decided {index : Nat} {verdict : Except ContainerFault Slice} (universal : Universal file)
      (counted : index < file.word 4 4) (earlier : ∀ other < index, PassedOver file cpu other)
      (decides : Decides file cpu index verdict) : Selection file cpu (verdict.map some)
  | exhausted (universal : Universal file) (earlier : ∀ index < file.word 4 4, PassedOver file cpu index) :
      Selection file cpu (.error (.noSlice cpu))

section Selection

variable {file image : Buffer} {cpu : UInt32} {index : Nat} {verdict : Except ContainerFault (Option Slice)}

theorem isContainer_eq_true_iff : isContainer file = true ↔ Universal file := by
  unfold isContainer
  rw [Bool.and_eq_true, decide_eq_true_iff, beq_iff_eq]
  exact ⟨fun both => ⟨both.1, both.2⟩, fun universal => ⟨universal.header, universal.magic⟩⟩

private theorem selectSlice_of_universal (universal : Universal file) :
    selectSlice file cpu = (scanSlices file cpu 0 (file.word 4 4)).verdict.map some := by
  have counted : 0 + file.word 4 4 ≤ 0x100000000 := by
    have small := Buffer.word_lt file 4 4
    omega
  rw [selectSlice, if_pos (isContainer_eq_true_iff.mpr universal), scanSlices_verdict counted]

private theorem selection_exists : Selection file cpu (selectSlice file cpu) := by
  by_cases universal : Universal file
  · have found : FirstDecision file cpu 0 (file.word 4 4) (scanSlices file cpu 0 (file.word 4 4)) := scanSlices_first
    rw [selectSlice_of_universal universal]
    generalize scanSlices file cpu 0 (file.word 4 4) = scan at found
    cases found with
    | decided counted earlier decides => exact .decided universal counted earlier decides
    | exhausted earlier => exact .exhausted universal earlier
  · rw [selectSlice, if_neg (mt isContainer_eq_true_iff.mp universal)]
    exact .plain universal

theorem Selection.selectSlice (selection : Selection file cpu verdict) : selectSlice file cpu = verdict := by
  cases selection with
  | plain other => rw [Image.selectSlice, if_neg (mt isContainer_eq_true_iff.mp other)]
  | @decided index verdict universal counted earlier decides =>
      have found : FirstDecision file cpu 0 (file.word 4 4) ⟨verdict, index + 1⟩ := .decided counted earlier decides
      rw [selectSlice_of_universal universal, scanSlices_first.unique found]
  | exhausted universal earlier =>
      have found : FirstDecision file cpu 0 (file.word 4 4) ⟨.error (.noSlice cpu), file.word 4 4⟩ :=
        .exhausted earlier
      rw [selectSlice_of_universal universal, scanSlices_first.unique found]
      rfl

theorem Selection.none_iff : Selection file cpu (.ok none) ↔ ¬ Universal file := by
  constructor
  · intro selection
    generalize same : (Except.ok none : Except ContainerFault (Option Slice)) = verdict at selection
    cases selection with
    | plain other => exact other
    | @decided _ verdict => cases verdict <;> cases same
    | exhausted => cases same
  · exact .plain

theorem Selection.inside {slice : Slice} (selection : Selection file cpu (.ok (some slice))) :
    slice.offset + slice.size ≤ file.size := by
  generalize same : (Except.ok (some slice) : Except ContainerFault (Option Slice)) = verdict at selection
  cases selection with
  | plain => cases same
  | decided _ _ _ decides =>
      cases decides with
      | chosen _ _ room =>
          cases same
          exact room
      | truncated | outside => cases same
  | exhausted => cases same

/-- No slice is a fault of its own only where the whole table was read; otherwise it is the file that ends. -/
theorem Selection.error {fault : ContainerFault} (selection : Selection file cpu (.error fault)) :
    (∀ index < file.word 4 4, PassedOver file cpu index) ∧ Fault.error fault = .noMatchingSlice ∨
      (∃ index < file.word 4 4, ¬ PassedOver file cpu index) ∧ Fault.error fault = .endOfFile := by
  generalize same : (Except.error fault : Except ContainerFault (Option Slice)) = verdict at selection
  cases selection with
  | plain => cases same
  | decided _ counted _ decides =>
      refine .inr ⟨⟨_, counted, decides.not_passed⟩, ?_⟩
      cases decides <;> cases same <;> rfl
  | exhausted _ earlier =>
      cases same
      exact .inl ⟨earlier, rfl⟩

theorem Carries.passed (carries : Carries file cpu index image) : ∀ other < index, PassedOver file cpu other := by
  intro other lower
  have inside := carries.inside
  refine ⟨?_, carries.earlier other lower⟩
  unfold sliceEntry sliceEntrySize at inside ⊢
  omega

theorem Carries.selectSlice (carries : Carries file cpu index image) :
    selectSlice file cpu = .ok (some ⟨index, sliceOffset file index, sliceSize file index⟩) := by
  have inside := carries.inside
  have header : containerHeaderSize ≤ file.size := by
    unfold sliceEntry at inside
    omega
  exact Selection.selectSlice (.decided ⟨header, carries.magic⟩ carries.counted carries.passed
    (.chosen carries.inside carries.wanted carries.room))

theorem Carries.size_le (carries : Carries file cpu index image) : image.size ≤ file.size := by
  rw [← carries.holds, Buffer.slice, Array.size_extract]
  omega

end Selection

/-- A file without the magic number is used as it is. In a universal binary the first entry that is not passed over
decides, and what it names lies in the file; behind it nothing is looked at, so that the entries that are looked at
fit into the file, but for the last. -/
theorem selectSlice_by_first_entry (file : Buffer) (cpu : UInt32) :
    (selectSlice file cpu = .ok none ↔ file.size < containerHeaderSize ∨ file.word 0 4 ≠ containerMagic) ∧
    (∀ verdict, selectSlice file cpu = verdict ↔ Selection file cpu verdict) ∧
    (∀ fault, selectSlice file cpu = .error fault →
      (∀ index < file.word 4 4, PassedOver file cpu index) ∧ Fault.error fault = .noMatchingSlice ∨
        (∃ index < file.word 4 4, ¬ PassedOver file cpu index) ∧ Fault.error fault = .endOfFile) ∧
    (∀ slice, selectSlice file cpu = .ok (some slice) → slice.offset + slice.size ≤ file.size) ∧
    (∀ index count, index + count ≤ 0x100000000 →
      (scanSlices file cpu index count).verdict = findSlice file cpu index count) ∧
    (scanSlices file cpu 0 (file.word 4 4)).looked ≤ file.size / sliceEntrySize + 1 ∧
    ∀ few count, file.size / sliceEntrySize < few → few ≤ count → count ≤ 0x100000000 →
      findSlice file cpu 0 count = findSlice file cpu 0 few := by
  have decided (verdict : Except ContainerFault (Option Slice)) :
      selectSlice file cpu = verdict ↔ Selection file cpu verdict := by
    constructor
    · intro same
      rw [← same]
      exact selection_exists
    · exact Selection.selectSlice
  refine ⟨?_, decided, ?_, ?_, fun _ _ => scanSlices_verdict, scanSlices_first.looked_le, ?_⟩
  · rw [decided, Selection.none_iff, ← Nat.not_le, ← not_and_or]
    exact not_congr ⟨fun universal => ⟨universal.header, universal.magic⟩, fun both => ⟨both.1, both.2⟩⟩
  · exact fun fault failed => ((decided _).mp failed).error
  · exact fun slice chosen => ((decided _).mp chosen).inside
  · intro few count room fewer counted
    rw [← scanSlices_verdict (by omega), ← scanSlices_verdict (by omega), scanSlices_of_room room fewer]

section Claimed

/-- A universal binary of two slices that claims to have as many as can be counted. -/
def claimedBinary : Buffer :=
  #[0xb9, 0xfa, 0xf1, 0x0e, 0xff, 0xff, 0xff, 0xff,
    7, 0, 0, 0, 3, 0, 0, 0, 48, 0, 0, 0, 200, 0, 0, 0, 0, 0, 0, 0,
    7, 0, 0, 1, 3, 0, 0, 0, 48, 0, 0, 0, 4, 0, 0, 0, 0, 0, 0, 0,
    1, 2, 3, 4]

end Claimed

/-- The second slice is found behind one that does not lie in the file and is for another processor. For that one
the file ends, and for a third processor the table does, after as many steps as the file allows. -/
theorem selectSlice_by_first_entry_claimed :
    selectSlice claimedBinary cpuX86_64 = .ok (some ⟨1, 48, 4⟩) ∧ 48 + 4 ≤ claimedBinary.size ∧
      Selection claimedBinary cpuX86_64 (.ok (some ⟨1, 48, 4⟩)) ∧
      Selection claimedBinary cpuI386 (.error (.sliceOutside 48 200 52)) ∧
      Selection claimedBinary 0x0100000c (.error (.tableTruncated 2)) ∧
      (∃ index < claimedBinary.word 4 4, ¬ PassedOver claimedBinary 0x0100000c index) ∧
      (scanSlices claimedBinary 0x0100000c 0 2).verdict = .error (.noSlice 0x0100000c) ∧
      (scanSlices claimedBinary 0x0100000c 0 (claimedBinary.word 4 4)).looked ≤ 3 ∧
      findSlice claimedBinary 0x0100000c 0 0xffffffff = findSlice claimedBinary 0x0100000c 0 3 := by
  have chosen : selectSlice claimedBinary cpuX86_64 = .ok (some ⟨1, 48, 4⟩) := by decide +kernel
  have outside : selectSlice claimedBinary cpuI386 = .error (.sliceOutside 48 200 52) := by decide +kernel
  have truncated : selectSlice claimedBinary 0x0100000c = .error (.tableTruncated 2) := by decide +kernel
  obtain ⟨-, decided, -, inside, -⟩ := selectSlice_by_first_entry claimedBinary cpuX86_64
  obtain ⟨-, refused, -⟩ := selectSlice_by_first_entry claimedBinary cpuI386
  obtain ⟨-, ended, failed, -, scanned, bounded, enough⟩ := selectSlice_by_first_entry claimedBinary 0x0100000c
  refine ⟨chosen, inside _ chosen, (decided _).mp chosen, (refused _).mp outside, (ended _).mp truncated, ?_, ?_,
    bounded, enough 3 0xffffffff (by decide) (by decide) (by decide)⟩
  · obtain ⟨-, ⟨⟩⟩ | ⟨found, -⟩ := failed _ truncated
    exact found
  · rw [scanned 0 2 (by decide)]
    decide +kernel

end EfiHandoff.Image
