import EfiHandoff.Proofs.Relocation.Beside

/-!
# Moving an image twice

A table that no fixup touches is read alike before and after a move. So a second move finds the same fixups, and
two moves are one move from where the first began to where the second ends; a move there and back is none.
-/

set_option autoImplicit false

namespace EfiHandoff.Image

section Rescan

variable {now original : Buffer}

theorem Shows.later {scan later : Scan} (shows : Shows now original (scan.andThen later).read)
    (finished : scan.fault = none) : Shows now original later.read := by
  rw [Scan.andThen_of_finished finished] at shows
  exact shows.subset (List.subset_append_right _ _)

private theorem scanEntries_of_shows {block page place count : Nat}
    (shows : Shows now original (scanEntries original block page place count).read) :
    scanEntries now block page place count = scanEntries original block page place count := by
  induction count generalizing place with
  | zero => rfl
  | succ count ih =>
      rw [scanEntries] at shows ⊢
      have member : (⟨place, place + 2⟩ : Reading) ∈ (scanEntry original block page place).read := by
        unfold scanEntry
        split <;> exact List.mem_singleton_self _
      have word : now.word place 2 = original.word place 2 :=
        shows.first.word member (Nat.le_refl _) (Nat.le_refl _)
      have entry : scanEntry now block page place = scanEntry original block page place := by
        unfold scanEntry
        rw [word, shows.size]
      rw [scanEntries, entry]
      cases stopped : (scanEntry original block page place).fault with
      | some fault => rw [Scan.andThen_of_stopped stopped, Scan.andThen_of_stopped stopped]
      | none => rw [ih (shows.later stopped)]

variable {last place : Nat}

private theorem scanBlock_of_shows (bounded : original.size ≤ wordLimit)
    (header : place + blockHeaderSize ≤ original.size)
    (shows : Shows now original (scanBlock original place).read) : scanBlock now place = scanBlock original place := by
  have read : Shows now original (headerRead original place) := shows.subset (List.subset_append_left _ _)
  obtain ⟨page, size⟩ := (read.header bounded).2 header
  have count : entryCount now place = entryCount original place := by rw [entryCount, size, entryCount]
  have entries := shows.later rfl
  unfold scanBlock
  rw [page, count, scanEntries_of_shows entries, headerRead, shows.size, headerRead]

theorem scanBlocks_of_shows (bounded : original.size ≤ wordLimit)
    (shows : Shows now original (scanBlocks original last place).read) :
    scanBlocks now last place = scanBlocks original last place := by
  induction remaining : last - place using Nat.strong_induction_on generalizing place with
  | _ remaining ih =>
      by_cases before : place < last
      · have sameHeader : headerRead now place = headerRead original place := by
          rw [headerRead, shows.size, headerRead]
        cases found : blockAt original place with
        | error fault =>
            rw [scanBlocks_refused before found] at shows ⊢
            rw [scanBlocks_refused before ((shows.header bounded).1.trans found), sameHeader]
        | ok block =>
            have accepted := (blockAt_ok bounded found).1
            have minimal := accepted.minimal
            rw [scanBlocks_accepted bounded before accepted] at shows ⊢
            have own := shows.first
            have header : Shows now original (headerRead original place) :=
              own.subset (List.subset_append_left _ _)
            have boundedNow : now.size ≤ wordLimit := by rw [shows.size]; exact bounded
            have acceptedNow := (blockAt_ok boundedNow ((header.header bounded).1.trans found)).1
            have size := ((header.header bounded).2 accepted.header).2
            rw [scanBlocks_accepted boundedNow before acceptedNow, size,
              scanBlock_of_shows bounded accepted.header own]
            cases stopped : (scanBlock original place).fault with
            | some fault => rw [Scan.andThen_of_stopped stopped, Scan.andThen_of_stopped stopped]
            | none =>
                unfold blockHeaderSize at minimal
                rw [ih _ (by omega) (shows.later stopped) rfl]
      · have reached := Nat.le_of_not_lt before
        rw [scanBlocks_finished reached, scanBlocks_finished reached]

/-- An image that shows what a scan reads is scanned alike. -/
theorem scan_of_shows {layout : Layout} (bounded : original.size ≤ wordLimit)
    (shows : Shows now original (scan layout original).read) : scan layout now = scan layout original := by
  cases present : layout.hasRelocations with
  | false => simp only [scan, present, Bool.not_false, ↓reduceIte]
  | true =>
      have size := shows.size
      simp only [scan, present, Bool.not_true, Bool.false_eq_true, ↓reduceIte, size] at shows ⊢
      split
      · rfl
      · next inside =>
          rw [if_neg inside] at shows
          exact scanBlocks_of_shows bounded shows

theorem Scan.Apart.shows {scan : Scan} (apart : scan.Apart) (delta : UInt64) (image : Buffer) :
    Shows (applyFixups delta scan.fixups image) image scan.read where
  size := size_applyFixups _
  bytes := by
    intro reading member index low high
    refine applyFixups_frame fun fixup listed => ?_
    have := apart fixup listed reading member
    omega

end Rescan

def Layout.movedTo (layout : Layout) (address : UInt64) : Layout := { layout with preferredBase := address }

/-- The distance of two moves is the sum of their distances, also downwards and across zero. -/
theorem Layout.delta_movedTo (layout : Layout) (first second : UInt64) :
    layout.delta first + (layout.movedTo first).delta second = layout.delta second := by
  unfold delta movedTo
  grind

/-- An image whose table can be gone through again after a move: no fixup touches what is read of the table, none
patches a high half, and any two patch disjoint bytes or the same bytes. -/
structure Layout.Movable (layout : Layout) (image : Buffer) : Prop where
  apart : (scan layout image).Apart
  whole : ∀ fixup ∈ (scan layout image).fixups, fixup.kind ≠ .high
  separable : (scan layout image).fixups.Pairwise Fixup.Separable

namespace Layout.Movable

variable {layout : Layout} {first second : MappedImage}

theorem relocated (movable : layout.Movable first.bytes) :
    relocate layout first =
      ⟨applyFixups (layout.delta first.address) (scan layout first.bytes).fixups first.bytes,
        (scan layout first.bytes).verdict 0⟩ :=
  relocate_scan movable.apart

/-- The second move finds the table of the first, and adds to what that one added. -/
theorem relocated_again (movable : layout.Movable first.bytes)
    (moved : second.bytes = (relocate layout first).image) :
    relocate (layout.movedTo first.address) second =
      ⟨applyFixups (layout.delta second.address) (scan layout first.bytes).fixups first.bytes,
        (scan layout first.bytes).verdict 0⟩ := by
  have shows := movable.apart.shows (layout.delta first.address) first.bytes
  have patched : second.bytes =
      applyFixups (layout.delta first.address) (scan layout first.bytes).fixups first.bytes := by
    rw [moved, movable.relocated]
  rw [← patched] at shows
  have rescanned : scan (layout.movedTo first.address) second.bytes = scan layout first.bytes :=
    scan_of_shows (Nat.le_of_lt first.size_lt) shows
  have whole : ∀ fixup ∈ (scan layout first.bytes).fixups, fixup.Whole first.bytes.size :=
    fun fixup listed => ⟨movable.whole fixup listed, (scan_patches layout fixup listed).inside⟩
  rw [relocate_scan (by rw [rescanned]; exact movable.apart), rescanned, patched,
    applyFixups_applyFixups whole movable.separable, Layout.delta_movedTo]

end Layout.Movable

/-- Moving an image and moving it on is moving it at once to where it ends, with the same verdict; moving it back to
where it was linked for restores every byte. -/
theorem relocate_composes (layout : Layout) (image : Buffer) (movable : layout.Movable image)
    (first direct : MappedImage) (a b : UInt64) (placed : MappedImage.at? image a = some first)
    (aimed : MappedImage.at? image b = some direct) :
    (relocate layout direct).verdict = (relocate layout first).verdict ∧
      (∃ second, MappedImage.at? (relocate layout first).image b = some second ∧
        relocate (layout.movedTo a) second = relocate layout direct) ∧
      ∀ home, MappedImage.at? image layout.preferredBase = some home →
        ∃ back, MappedImage.at? (relocate layout first).image layout.preferredBase = some back ∧
          relocate (layout.movedTo a) back = ⟨image, (relocate layout first).verdict⟩ := by
  obtain ⟨rfl, rfl⟩ := MappedImage.at?_eq_some_iff.mp placed
  obtain ⟨same, rfl⟩ := MappedImage.at?_eq_some_iff.mp aimed
  have straight : relocate layout direct =
      ⟨applyFixups (layout.delta direct.address) (scan layout first.bytes).fixups first.bytes,
        (scan layout first.bytes).verdict 0⟩ := by
    rw [← same] at movable ⊢
    exact movable.relocated
  refine ⟨?_, ?_, ?_⟩
  · rw [straight, movable.relocated]
  · let second : MappedImage := ⟨(relocate layout first).image, direct.address, by
      rw [size_relocate, ← same]; exact direct.fits⟩
    refine ⟨second, MappedImage.at?_eq_some_iff.mpr ⟨rfl, rfl⟩, ?_⟩
    rw [movable.relocated_again rfl, straight]
  · intro home atHome
    obtain ⟨bytes, address⟩ := MappedImage.at?_eq_some_iff.mp atHome
    let back : MappedImage := ⟨(relocate layout first).image, layout.preferredBase, by
      rw [size_relocate, ← bytes, ← address]; exact home.fits⟩
    have nowhere : layout.delta layout.preferredBase = 0 := UInt64.sub_self _
    refine ⟨back, MappedImage.at?_eq_some_iff.mpr ⟨rfl, rfl⟩, ?_⟩
    rw [movable.relocated_again rfl, movable.relocated, nowhere, applyFixups_zero]

/-- A table of one block at place 16, for an executable that was linked near the top of the address space. -/
def soaringLayout : Layout where
  preferredBase := 0xffffffffffff0000
  imageSize := 34
  entry := 0
  headersSize := 0
  sectionCount := 0
  sectionTable := 0
  relocations := ⟨16, 18⟩
  directoryCount := 6
  alignment := 1

/-- A 64-bit value, a 32-bit value that the table names twice, and a 16-bit value. -/
def soaringImage : Buffer :=
  #[0x20, 0, 0xff, 0xff, 0xff, 0xff, 0xff, 0xff, 0xf0, 0xff, 0xff, 0xff, 0xfe, 0xff, 0, 0,
    0, 0, 0, 0, 18, 0, 0, 0, 0, 0xa0, 8, 0x30, 8, 0x30, 12, 0x20, 0, 0]

private theorem soaringImage_movable : soaringLayout.Movable soaringImage where
  apart := by decide +kernel
  whole := by decide +kernel
  separable := by decide +kernel

/-- Across zero and on, straight to the same place, and back down again. -/
theorem relocate_composes_soaring :
    ∃ first second back, MappedImage.at? soaringImage 0x12345 = some first ∧
      (relocate soaringLayout first).verdict = .ok 4 ∧
      MappedImage.at? (relocate soaringLayout first).image 0x8000000000000008 = some second ∧
      relocate (soaringLayout.movedTo 0x12345) second =
        ⟨#[0x28, 0, 0, 0, 0, 0, 0, 0x80, 0, 0, 2, 0, 6, 0, 0, 0,
          0, 0, 0, 0, 18, 0, 0, 0, 0, 0xa0, 8, 0x30, 8, 0x30, 12, 0x20, 0, 0], .ok 4⟩ ∧
      MappedImage.at? (relocate soaringLayout first).image 0xffffffffffff0000 = some back ∧
      relocate (soaringLayout.movedTo 0x12345) back = ⟨soaringImage, .ok 4⟩ := by
  let first : MappedImage := ⟨soaringImage, 0x12345, by decide⟩
  let direct : MappedImage := ⟨soaringImage, 0x8000000000000008, by decide⟩
  let home : MappedImage := ⟨soaringImage, 0xffffffffffff0000, by decide⟩
  obtain ⟨same, ⟨second, atSecond, composed⟩, restores⟩ :=
    relocate_composes soaringLayout soaringImage soaringImage_movable first direct 0x12345 0x8000000000000008
      (dif_pos first.fits) (dif_pos direct.fits)
  obtain ⟨back, atBack, restored⟩ := restores home (dif_pos home.fits)
  have movable : soaringLayout.Movable direct.bytes := soaringImage_movable
  have straight := movable.relocated
  have bytes : applyFixups (soaringLayout.delta direct.address) (scan soaringLayout soaringImage).fixups soaringImage =
      #[0x28, 0, 0, 0, 0, 0, 0, 0x80, 0, 0, 2, 0, 6, 0, 0, 0,
        0, 0, 0, 0, 18, 0, 0, 0, 0, 0xa0, 8, 0x30, 8, 0x30, 12, 0x20, 0, 0] := by
    decide +kernel
  have verdict : (scan soaringLayout soaringImage).verdict 0 = .ok 4 := by decide +kernel
  have ended : (relocate soaringLayout first).verdict = .ok 4 := by rw [← same, straight]; exact verdict
  refine ⟨first, second, back, dif_pos first.fits, ended, atSecond, ?_, atBack, ?_⟩
  · rw [composed, straight]
    exact congrArg₂ Patched.mk bytes verdict
  · rw [restored, ended]

end EfiHandoff.Image
