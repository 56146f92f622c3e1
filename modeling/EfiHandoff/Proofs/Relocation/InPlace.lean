import EfiHandoff.Proofs.Relocation.Beside

/-!
# Relocation over no distance

At the address an image was linked for every patch adds zero, so no byte changes, wherever the fixups point. The
table is then read as it stood, also where fixups lie in it, and relocation ends as a scan of the table does.
-/

set_option autoImplicit false

namespace EfiHandoff.Image

section Walk

variable {image : Buffer}

private theorem applyEntries_zero {block page place count applied : Nat} (bounded : image.size ≤ wordLimit)
    (inside : place + 2 * count ≤ image.size) :
    applyEntries 0 block page place count applied image =
      ⟨image, (scanEntries image block page place count).verdict applied⟩ := by
  induction count generalizing place applied with
  | zero => rfl
  | succ count ih =>
      rw [applyEntries_succ bounded (by omega), scanEntries, scanEntry]
      cases entryDemand image.size block page (image.word place 2) with
      | error fault =>
          rw [Scan.andThen_of_stopped rfl]
          rfl
      | ok asked =>
          rw [Scan.verdict_andThen rfl]
          cases asked with
          | none => exact ih (by omega)
          | some fixup =>
              dsimp only
              rw [Fixup.apply_zero]
              exact ih (by omega)

private theorem scanBlock_verdict (place applied : Nat) :
    (scanBlock image place).verdict applied =
      (scanEntries image place (blockPage image place) (place + blockHeaderSize)
        (entryCount image place)).verdict applied :=
  Scan.verdict_andThen rfl

/-- The image is the same in front of every block, so the blocks are those that a scan finds. -/
theorem applyBlocks_zero {last place applied : Nat} (bounded : image.size ≤ wordLimit) :
    applyBlocks 0 last place applied image = ⟨image, (scanBlocks image last place).verdict applied⟩ := by
  fun_induction scanBlocks image last place generalizing applied with
  | case1 place before fault refused =>
      rw [applyBlocks_refused before refused]
      rfl
  | case2 place before block found ih =>
      obtain ⟨accepted, size, -⟩ := blockAt_ok bounded found
      have inside := Nat.le_trans (entries_end accepted.minimal) accepted.inside
      rw [applyBlocks_accepted bounded before accepted, applyEntries_zero bounded inside, ← scanBlock_verdict]
      cases stopped : (scanBlock image place).fault with
      | some fault =>
          rw [Scan.andThen_of_stopped stopped, Scan.verdict_of_stopped stopped]
      | none =>
          rw [Scan.verdict_andThen stopped, Scan.verdict_of_finished stopped, ← size]
          exact ih
  | case3 place reached => exact applyBlocks_finished (Nat.le_of_not_lt reached)

end Walk

/-- At the address an image was linked for, relocation leaves every byte alone, however it ends, and it ends as a scan
of the table does. So a second relocation is the first once more. Nothing is asked of the table. -/
theorem relocate_in_place (layout : Layout) (image : Buffer) (placed : MappedImage)
    (home : MappedImage.at? image layout.preferredBase = some placed) :
    (relocate layout placed).image = image ∧
      (relocate layout placed).verdict = (scan layout image).verdict 0 ∧
      ∃ again, MappedImage.at? (relocate layout placed).image layout.preferredBase = some again ∧
        relocate layout again = relocate layout placed := by
  obtain ⟨rfl, address⟩ := MappedImage.at?_eq_some_iff.mp home
  have nowhere : layout.delta placed.address = 0 := by
    rw [address]
    exact UInt64.sub_self _
  have walked : relocate layout placed = ⟨placed.bytes, (scan layout placed.bytes).verdict 0⟩ := by
    unfold scan
    cases present : layout.hasRelocations with
    | false => exact relocate_absent present
    | true =>
        by_cases inside : layout.tableLast ≤ placed.bytes.size
        · rw [relocate_inside present inside, nowhere, applyBlocks_zero (Nat.le_of_lt placed.size_lt),
            if_neg (by decide), if_neg (Nat.not_lt.mpr inside)]
        · have outside := Nat.lt_of_not_le inside
          rw [relocate_outside present outside, if_neg (by decide), if_pos outside]
          rfl
  rw [walked]
  exact ⟨rfl, rfl, placed, home, walked⟩

/-- One block whose fixups patch its own header and its own entries, some of them twice, up to an entry of no known
kind. -/
def tangledImage : Buffer :=
  #[0, 0, 0, 0, 20, 0, 0, 0, 0, 0xa0, 4, 0x30, 8, 0x10, 9, 0x20, 0, 0, 0, 0x50]

def tangledLayout : Layout where
  preferredBase := 0xffffffffffff1234
  imageSize := 20
  entry := 0
  headersSize := 0
  sectionCount := 0
  sectionTable := 0
  relocations := ⟨0, 20⟩
  directoryCount := 6
  alignment := 1

/-- The header, the size in it and the entries are patched with what stands there, twice over. -/
theorem relocate_in_place_tangled :
    ∃ placed again, MappedImage.at? tangledImage 0xffffffffffff1234 = some placed ∧
      ¬ (scan tangledLayout tangledImage).Apart ∧
      relocate tangledLayout placed = ⟨tangledImage, .error (.unknownKind 5 0)⟩ ∧
      MappedImage.at? tangledImage 0xffffffffffff1234 = some again ∧
      relocate tangledLayout again = ⟨tangledImage, .error (.unknownKind 5 0)⟩ := by
  let placed : MappedImage := ⟨tangledImage, 0xffffffffffff1234, by decide⟩
  have home : MappedImage.at? tangledImage 0xffffffffffff1234 = some placed := dif_pos placed.fits
  obtain ⟨kept, ended, again, atAgain, same⟩ := relocate_in_place tangledLayout tangledImage placed home
  have verdict : (scan tangledLayout tangledImage).verdict 0 = .error (.unknownKind 5 0) := by decide +kernel
  have first : relocate tangledLayout placed = ⟨tangledImage, .error (.unknownKind 5 0)⟩ := by
    rw [← kept, ← verdict, ← ended]
  rw [kept] at atAgain
  exact ⟨placed, again, home, by decide +kernel, first, atAgain, same.trans first⟩

end EfiHandoff.Image
