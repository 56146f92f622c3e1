import EfiHandoff.Proofs.Relocation.Basic

/-!
# Relocation in two phases

A scan reads the table as it stands and lists the fixups it asks for; the listed fixups are then applied in order.
Relocation does both at once, in the same bytes. The two agree whenever no fixup touches what the scan reads.
-/

set_option autoImplicit false

namespace EfiHandoff.Image

structure Reading where
  start : Nat
  last : Nat
deriving DecidableEq, Repr

/-- What a scan of a table finds: the fixups in order, what it read, and the fault it stopped at, if any. -/
structure Scan where
  fixups : List Fixup
  read : List Reading
  fault : Option RelocationFault
deriving DecidableEq, Repr

namespace Scan

/-- The scan that goes on with `rest`, unless it has stopped. -/
def andThen (scan rest : Scan) : Scan :=
  match scan.fault with
  | some _ => scan
  | none => ⟨scan.fixups ++ rest.fixups, scan.read ++ rest.read, rest.fault⟩

/-- How relocation ends by a scan, with `applied` fixups applied before. -/
def verdict (scan : Scan) (applied : Nat) : Except RelocationFault Nat :=
  match scan.fault with
  | some fault => .error fault
  | none => .ok (applied + scan.fixups.length)

/-- No fixup touches a byte that the scan reads. -/
def Apart (scan : Scan) : Prop :=
  ∀ fixup ∈ scan.fixups, ∀ reading ∈ scan.read,
    fixup.last ≤ reading.start ∨ reading.last ≤ fixup.target

instance (scan : Scan) : Decidable scan.Apart :=
  inferInstanceAs (Decidable (∀ fixup ∈ scan.fixups, ∀ reading ∈ scan.read,
    fixup.last ≤ reading.start ∨ reading.last ≤ fixup.target))

end Scan

def scanEntry (image : Buffer) (block page place : Nat) : Scan :=
  match entryDemand image.size block page (image.word place 2) with
  | .error fault => ⟨[], [⟨place, place + 2⟩], some fault⟩
  | .ok asked => ⟨asked.toList, [⟨place, place + 2⟩], none⟩

def scanEntries (image : Buffer) (block page : Nat) : (place count : Nat) → Scan
  | _, 0 => ⟨[], [], none⟩
  | place, count + 1 =>
      (scanEntry image block page place).andThen (scanEntries image block page (place + 2) count)

/-- What is read of the header of the block at `place`: all of it, or nothing when it lies outside. -/
def headerRead (image : Buffer) (place : Nat) : List Reading :=
  if place + blockHeaderSize ≤ image.size then [⟨place, place + blockHeaderSize⟩] else []

def scanBlock (image : Buffer) (place : Nat) : Scan :=
  Scan.andThen ⟨[], headerRead image place, none⟩ (scanEntries image place (blockPage image place)
    (place + blockHeaderSize) (entryCount image place))

def scanBlocks (image : Buffer) (last place : Nat) : Scan :=
  if place < last then
    match blockAt image place with
    | .error fault => ⟨[], headerRead image place, some fault⟩
    | .ok block => (scanBlock image place).andThen (scanBlocks image last (place + block.size))
  else ⟨[], [], none⟩
termination_by last - place
decreasing_by have := block.minimal; simp only [blockHeaderSize] at this; omega

def scan (layout : Layout) (image : Buffer) : Scan :=
  if !layout.hasRelocations then ⟨[], [], none⟩
  else if image.size < layout.tableLast then
    ⟨[], [], some (.tableOutside layout.tableStart layout.relocations.size.toNat image.size)⟩
  else scanBlocks image layout.tableLast layout.tableStart

def applyFixups (delta : UInt64) (fixups : List Fixup) (image : Buffer) : Buffer :=
  fixups.foldl (Fixup.apply delta) image

section Apply

variable {delta : UInt64} {image : Buffer}

theorem applyFixups_append (first rest : List Fixup) :
    applyFixups delta (first ++ rest) image =
      applyFixups delta rest (applyFixups delta first image) :=
  List.foldl_append

@[simp] theorem size_applyFixups (fixups : List Fixup) :
    (applyFixups delta fixups image).size = image.size := by
  induction fixups generalizing image with
  | nil => rfl
  | cons fixup fixups ih => exact ih.trans (Fixup.size_apply delta image fixup)

theorem applyFixups_frame {fixups : List Fixup} {index : Nat}
    (outside : ∀ fixup ∈ fixups, index < fixup.target ∨ fixup.last ≤ index) :
    (applyFixups delta fixups image)[index]? = image[index]? := by
  induction fixups generalizing image with
  | nil => rfl
  | cons fixup fixups ih =>
      change (applyFixups delta fixups (fixup.apply delta image))[index]? = _
      have rest := fun other member => outside other (List.mem_cons_of_mem fixup member)
      exact (ih rest).trans (Fixup.apply_frame delta image (outside fixup List.mem_cons_self))

end Apply

namespace Scan

variable {scan later : Scan}

theorem andThen_of_stopped {fault : RelocationFault} (stopped : scan.fault = some fault) :
    scan.andThen later = scan := by
  simp only [andThen, stopped]

theorem andThen_of_finished (finished : scan.fault = none) :
    scan.andThen later = ⟨scan.fixups ++ later.fixups, scan.read ++ later.read, later.fault⟩ := by
  simp only [andThen, finished]

theorem verdict_of_stopped {fault : RelocationFault} {applied : Nat}
    (stopped : scan.fault = some fault) : scan.verdict applied = .error fault := by
  simp only [verdict, stopped]

theorem verdict_of_finished {applied : Nat} (finished : scan.fault = none) :
    scan.verdict applied = .ok (applied + scan.fixups.length) := by
  simp only [verdict, finished]

theorem verdict_andThen {applied : Nat} (finished : scan.fault = none) :
    (scan.andThen later).verdict applied = later.verdict (applied + scan.fixups.length) := by
  rw [andThen_of_finished finished]
  unfold verdict
  cases later.fault with
  | some fault => rfl
  | none => simp only [List.length_append, Nat.add_assoc]

theorem Apart.first (apart : (scan.andThen later).Apart) : scan.Apart := by
  cases stopped : scan.fault with
  | some fault => rwa [andThen_of_stopped stopped] at apart
  | none =>
      rw [andThen_of_finished stopped] at apart
      intro fixup fixupMember reading readMember
      exact apart fixup (List.mem_append_left _ fixupMember) reading
        (List.mem_append_left _ readMember)

theorem Apart.rest (apart : (scan.andThen later).Apart) (finished : scan.fault = none) :
    later.Apart := by
  rw [andThen_of_finished finished] at apart
  intro fixup fixupMember reading readMember
  exact apart fixup (List.mem_append_right _ fixupMember) reading
    (List.mem_append_right _ readMember)

private theorem Apart.across (apart : (scan.andThen later).Apart) (finished : scan.fault = none) :
    ∀ fixup ∈ scan.fixups, ∀ reading ∈ later.read,
      fixup.last ≤ reading.start ∨ reading.last ≤ fixup.target := by
  rw [andThen_of_finished finished] at apart
  intro fixup fixupMember reading readMember
  exact apart fixup (List.mem_append_left _ fixupMember) reading
    (List.mem_append_right _ readMember)

end Scan

/-- The fixup is no padding, and what it patches lies in an image of `size` bytes. -/
structure Fixup.Patches (size : Nat) (fixup : Fixup) : Prop where
  kind : fixup.kind ≠ .absolute
  inside : fixup.last ≤ size

section Listed

variable {image : Buffer}

private theorem Scan.fixups_andThen {scan later : Scan} {property : Fixup → Prop}
    (first : ∀ fixup ∈ scan.fixups, property fixup) (rest : ∀ fixup ∈ later.fixups, property fixup) :
    ∀ fixup ∈ (scan.andThen later).fixups, property fixup := by
  cases stopped : scan.fault with
  | some fault => rwa [andThen_of_stopped stopped]
  | none =>
      rw [andThen_of_finished stopped]
      exact List.forall_mem_append.mpr ⟨first, rest⟩

private theorem scanEntries_patches (block page place count : Nat) :
    ∀ fixup ∈ (scanEntries image block page place count).fixups, fixup.Patches image.size := by
  induction count generalizing place with
  | zero => exact List.forall_mem_nil _
  | succ count ih =>
      rw [scanEntries]
      refine Scan.fixups_andThen ?_ (ih (place + 2))
      intro fixup listed
      unfold scanEntry at listed
      cases demand : entryDemand image.size block page (image.word place 2) with
      | error fault =>
          rw [demand] at listed
          cases listed
      | ok asked =>
          rw [demand] at listed
          cases asked with
          | none => cases listed
          | some found =>
              obtain rfl := List.mem_singleton.mp listed
              obtain ⟨-, patching, -, inside⟩ := entryDemand_some demand
              exact ⟨patching, inside⟩

theorem scanBlocks_patches (last place : Nat) :
    ∀ fixup ∈ (scanBlocks image last place).fixups, fixup.Patches image.size := by
  fun_induction scanBlocks image last place with
  | case1 => exact List.forall_mem_nil _
  | case2 place before block found ih =>
      refine Scan.fixups_andThen ?_ ih
      exact Scan.fixups_andThen (List.forall_mem_nil _) (scanEntries_patches _ _ _ _)
  | case3 => exact List.forall_mem_nil _

/-- A scan lists only fixups that patch inside the image. -/
theorem scan_patches (layout : Layout) : ∀ fixup ∈ (scan layout image).fixups, fixup.Patches image.size := by
  unfold scan
  split
  · exact List.forall_mem_nil _
  split
  · exact List.forall_mem_nil _
  · exact scanBlocks_patches _ _

end Listed

/-- Of everything that is read, an image still shows what the original did. -/
structure Shows (now original : Buffer) (read : List Reading) : Prop where
  size : now.size = original.size
  bytes : ∀ reading ∈ read, ∀ index, reading.start ≤ index → index < reading.last →
    now[index]? = original[index]?

namespace Shows

variable {now original : Buffer} {read : List Reading}

theorem refl (image : Buffer) (read : List Reading) : Shows image image read :=
  ⟨rfl, fun _ _ _ _ _ => rfl⟩

theorem subset {fewer : List Reading} (shows : Shows now original read) (subset : fewer ⊆ read) :
    Shows now original fewer :=
  ⟨shows.size, fun reading member => shows.bytes reading (subset member)⟩

theorem first {scan later : Scan} (shows : Shows now original (scan.andThen later).read) :
    Shows now original scan.read := by
  cases stopped : scan.fault with
  | some fault => rwa [Scan.andThen_of_stopped stopped] at shows
  | none =>
      rw [Scan.andThen_of_finished stopped] at shows
      exact shows.subset (List.subset_append_left _ _)

theorem rest (delta : UInt64) {scan later : Scan}
    (shows : Shows now original (scan.andThen later).read) (apart : (scan.andThen later).Apart)
    (finished : scan.fault = none) :
    Shows (applyFixups delta scan.fixups now) original later.read where
  size := (size_applyFixups _).trans shows.size
  bytes := by
    intro reading member index low high
    have across := apart.across finished
    rw [Scan.andThen_of_finished finished] at shows
    have outside : ∀ fixup ∈ scan.fixups, index < fixup.target ∨ fixup.last ≤ index := by
      intro fixup listed
      have := across fixup listed reading member
      omega
    rw [applyFixups_frame outside]
    exact shows.bytes reading (List.mem_append_right _ member) index low high

theorem word {reading : Reading} {place width : Nat} (shows : Shows now original read)
    (member : reading ∈ read) (low : reading.start ≤ place) (high : place + width ≤ reading.last) :
    now.word place width = original.word place width :=
  Buffer.word_congr fun index _ _ => shows.bytes reading member index (by omega) (by omega)

end Shows

section Agreement

variable {delta : UInt64} {now original : Buffer}

theorem applyEntries_scan {block page place count applied : Nat}
    (bounded : original.size ≤ wordLimit) (inside : place + 2 * count ≤ original.size)
    (shows : Shows now original (scanEntries original block page place count).read)
    (apart : (scanEntries original block page place count).Apart) :
    applyEntries delta block page place count applied now =
      ⟨applyFixups delta (scanEntries original block page place count).fixups now,
        (scanEntries original block page place count).verdict applied⟩ := by
  induction count generalizing place applied now with
  | zero => rfl
  | succ count ih =>
      have size := shows.size
      rw [scanEntries] at shows apart ⊢
      have member : (⟨place, place + 2⟩ : Reading) ∈ (scanEntry original block page place).read := by
        unfold scanEntry
        split <;> exact List.mem_singleton_self _
      have word : now.word place 2 = original.word place 2 :=
        shows.first.word member (Nat.le_refl _) (Nat.le_refl _)
      rw [applyEntries_succ (by omega) (by omega), word, size]
      cases demand : entryDemand original.size block page (original.word place 2) with
      | error fault =>
          have entry : scanEntry original block page place =
              ⟨[], [⟨place, place + 2⟩], some fault⟩ := by
            simp only [scanEntry, demand]
          rw [entry, Scan.andThen_of_stopped rfl]
          rfl
      | ok asked =>
          have entry : scanEntry original block page place =
              ⟨asked.toList, [⟨place, place + 2⟩], none⟩ := by
            simp only [scanEntry, demand]
          rw [entry] at shows apart ⊢
          have later := shows.rest delta apart rfl
          have remaining := apart.rest rfl
          rw [Scan.verdict_andThen rfl, Scan.andThen_of_finished rfl, applyFixups_append]
          cases asked with
          | none => exact ih (by omega) later remaining
          | some fixup => exact ih (by omega) later remaining

/-- What an image shows of the header is enough to judge the block. -/
theorem Shows.header {place : Nat} (bounded : original.size ≤ wordLimit)
    (shows : Shows now original (headerRead original place)) :
    blockAt now place = blockAt original place ∧
      (place + blockHeaderSize ≤ original.size → blockPage now place = blockPage original place ∧
        blockSize now place = blockSize original place) := by
  have size := shows.size
  rw [blockAt_eq (by omega), blockAt_eq bounded, size]
  by_cases inside : place + blockHeaderSize ≤ original.size
  · have member : (⟨place, place + blockHeaderSize⟩ : Reading) ∈ headerRead original place := by
      rw [headerRead, if_pos inside]
      exact List.mem_singleton_self _
    have page : blockPage now place = blockPage original place :=
      shows.word member (Nat.le_refl _) (by simp only [blockHeaderSize]; omega)
    have length : blockSize now place = blockSize original place :=
      shows.word member (by simp only; omega) (by simp only [blockHeaderSize]; omega)
    simp only [page, length]
    exact ⟨trivial, fun _ => ⟨trivial, trivial⟩⟩
  · rw [if_pos (Nat.lt_of_not_le inside), if_pos (Nat.lt_of_not_le inside)]
    exact ⟨rfl, fun reached => absurd reached inside⟩

variable {last place applied : Nat}

theorem scanBlocks_finished (reached : last ≤ place) :
    scanBlocks original last place = ⟨[], [], none⟩ := by
  rw [scanBlocks, if_neg (Nat.not_lt.mpr reached)]

theorem scanBlocks_refused {fault : RelocationFault} (before : place < last)
    (refused : blockAt original place = .error fault) :
    scanBlocks original last place = ⟨[], headerRead original place, some fault⟩ := by
  rw [scanBlocks, if_pos before, refused]

theorem scanBlocks_accepted (bounded : original.size ≤ wordLimit) (before : place < last)
    (accepted : BlockAccepted original place) :
    scanBlocks original last place = (scanBlock original place).andThen
      (scanBlocks original last (place + blockSize original place)) := by
  rw [scanBlocks, if_pos before, blockAt_of_accepted bounded accepted]

private theorem applyBlock_scan (bounded : original.size ≤ wordLimit)
    (accepted : BlockAccepted original place)
    (shows : Shows now original (scanBlock original place).read)
    (apart : (scanBlock original place).Apart) :
    applyEntries delta place (blockPage original place) (place + blockHeaderSize)
        (entryCount original place) applied now =
      ⟨applyFixups delta (scanBlock original place).fixups now,
        (scanBlock original place).verdict applied⟩ := by
  have inside := Nat.le_trans (entries_end accepted.minimal) accepted.inside
  have entries := shows.rest delta apart rfl
  exact applyEntries_scan bounded inside entries (apart.rest rfl)

/-- Where no fixup touches what is read, patching while the table is read is the same as scanning first. -/
theorem applyBlocks_scan (bounded : original.size ≤ wordLimit)
    (shows : Shows now original (scanBlocks original last place).read)
    (apart : (scanBlocks original last place).Apart) :
    applyBlocks delta last place applied now =
      ⟨applyFixups delta (scanBlocks original last place).fixups now,
        (scanBlocks original last place).verdict applied⟩ := by
  -- The fixups of one block leave the rest of the table as it was, so the walk goes on as the scan does.
  induction remaining : last - place using Nat.strong_induction_on generalizing place applied now with
  | _ remaining ih =>
      by_cases before : place < last
      · cases found : blockAt original place with
        | error fault =>
            rw [scanBlocks_refused before found] at shows ⊢
            rw [applyBlocks_refused before ((shows.header bounded).1.trans found)]
            rfl
        | ok block =>
            have accepted := (blockAt_ok bounded found).1
            have minimal := accepted.minimal
            rw [scanBlocks_accepted bounded before accepted] at shows apart ⊢
            have first := shows.first
            have header : Shows now original (headerRead original place) :=
              first.subset (List.subset_append_left _ _)
            have boundedNow : now.size ≤ wordLimit := shows.size ▸ bounded
            have acceptedNow : BlockAccepted now place :=
              (blockAt_ok boundedNow ((header.header bounded).1.trans found)).1
            obtain ⟨page, size⟩ := (header.header bounded).2 accepted.header
            have count : entryCount now place = entryCount original place := by
              rw [entryCount, size, entryCount]
            rw [applyBlocks_accepted boundedNow before acceptedNow, page, size, count,
              applyBlock_scan bounded accepted first apart.first]
            cases stopped : (scanBlock original place).fault with
            | some fault =>
                simp only [Scan.andThen_of_stopped stopped, Scan.verdict_of_stopped stopped]
            | none =>
                have later := shows.rest delta apart stopped
                unfold blockHeaderSize at minimal
                simp only [Scan.verdict_of_finished stopped, Scan.verdict_andThen stopped]
                rw [ih _ (by omega) later (apart.rest stopped) rfl,
                  Scan.andThen_of_finished stopped, applyFixups_append]
      · have reached := Nat.le_of_not_lt before
        rw [scanBlocks_finished reached, applyBlocks_finished reached]
        rfl

end Agreement

theorem relocate_scan {layout : Layout} {image : MappedImage}
    (apart : (scan layout image.bytes).Apart) :
    relocate layout image =
      ⟨applyFixups (layout.delta image.address) (scan layout image.bytes).fixups image.bytes,
        (scan layout image.bytes).verdict 0⟩ := by
  cases present : layout.hasRelocations with
  | false =>
      rw [relocate_absent present]
      simp only [scan, present, Bool.not_false, ↓reduceIte]
      rfl
  | true =>
      by_cases inside : layout.tableLast ≤ image.bytes.size
      · have walked : scan layout image.bytes =
            scanBlocks image.bytes layout.tableLast layout.tableStart := by
          simp only [scan, present, Bool.not_true, Bool.false_eq_true, ↓reduceIte,
            Nat.not_lt.mpr inside]
        rw [walked] at apart ⊢
        rw [relocate_inside present inside]
        exact applyBlocks_scan (Nat.le_of_lt image.size_lt) (.refl _ _) apart
      · have outside := Nat.lt_of_not_le inside
        rw [relocate_outside present outside]
        simp only [scan, present, Bool.not_true, Bool.false_eq_true, ↓reduceIte, outside]
        rfl

end EfiHandoff.Image
