import EfiHandoff.Proofs.Image.GuardedHeaders

/-!
# The format of the headers

The files that are read are those whose headers are in order, the numbers that are read stand at the places of a PE32+
file, and what is wrong first is what is reported. Two of the checks never find anything wrong.
-/

set_option autoImplicit false

namespace EfiHandoff.Image

/-- What is read of a file are its numbers, each at its place in a PE32+ file. -/
structure Describes (file : Buffer) (layout : Layout) : Prop where
  sectionCount : layout.sectionCount.toNat = file.word (headerAt file + 2) 2
  entry : layout.entry.toNat = file.word (optionalAt file + 16) 4
  preferredBase : layout.preferredBase.toNat = file.word (optionalAt file + 24) 8
  alignment : layout.alignment.toNat = file.word (optionalAt file + 32) 4
  imageSize : layout.imageSize.toNat = file.word (optionalAt file + 56) 4
  headersSize : layout.headersSize.toNat = file.word (optionalAt file + 60) 4
  directoryCount : layout.directoryCount.toNat =
    min (file.word (optionalAt file + 108) 4) ((optionalSize file - 112) / 8)
  relocations : 5 < layout.directoryCount.toNat →
    layout.relocations.start.toNat = file.word (optionalAt file + 112 + 5 * 8) 4 ∧
      layout.relocations.size.toNat = file.word (optionalAt file + 112 + 5 * 8 + 4) 4
  unrelocated : ¬ 5 < layout.directoryCount.toNat → layout.relocations = ⟨0, 0⟩
  sectionTable : layout.sectionTable.toNat = optionalAt file + optionalSize file

theorem describes_declared (file : Buffer) : Describes file (declared file) := by
  obtain ⟨-, optional, short, -⟩ := places_reach file
  have half (start : Nat) : (UInt16.ofNat (file.word start 2)).toNat = file.word start 2 :=
    UInt16.toNat_ofNat_of_lt (Buffer.word_lt file start 2)
  have single (start : Nat) : (UInt32.ofNat (file.word start 4)).toNat = file.word start 4 :=
    UInt32.toNat_ofNat_of_lt (Buffer.word_lt file start 4)
  have widened (start : Nat) : (UInt64.ofNat (file.word start 4)).toNat = file.word start 4 :=
    UInt64.toNat_ofNat_of_lt (Nat.lt_trans (Buffer.word_lt file start 4) (by decide))
  have double (start : Nat) : (UInt64.ofNat (file.word start 8)).toNat = file.word start 8 :=
    UInt64.toNat_ofNat_of_lt (Buffer.word_lt file start 8)
  have table : optionalAt file + optionalSize file < UInt64.size := by
    unfold UInt64.size
    omega
  have count : (declared file).directoryCount.toNat = directoryCount file := by
    have fits : directoryCount file < UInt64.size :=
      Nat.lt_of_le_of_lt (Nat.min_le_left _ _) (Nat.lt_trans (Buffer.word_lt file _ 4) (by decide))
    exact UInt64.toNat_ofNat_of_lt fits
  exact {
    sectionCount := half _
    entry := widened _
    preferredBase := double _
    alignment := single _
    imageSize := widened _
    headersSize := widened _
    directoryCount := count
    relocations := fun counted => by
      rw [count] at counted
      rw [relocations_of_counted counted]
      exact ⟨single _, single _⟩
    unrelocated := fun uncounted => by
      rw [count] at uncounted
      exact relocations_of_uncounted uncounted
    sectionTable := UInt64.toNat_ofNat_of_lt table }

private theorem headerConditions_named (file : Buffer) :
    ∀ condition ∈ headerConditions file, Fault.error condition.fault = condition.error := by
  unfold headerConditions
  simp only [List.forall_mem_cons, List.not_mem_nil, false_implies, implies_true, and_true]
  exact ⟨rfl, rfl, rfl, rfl, rfl, rfl, rfl, rfl, rfl, rfl, rfl, rfl, rfl⟩

theorem simplify_readLayout_eq_error_iff {file : Buffer} {error : BootError} :
    Fault.simplify (readLayout file) = .error error ↔
      ∃ failed, FirstFailed (headerConditions file) failed ∧ failed.error = error := by
  rw [Fault.simplify_eq_error_iff]
  constructor
  · intro refused
    obtain ⟨fault, read, rfl⟩ := refused
    obtain ⟨failed, first, rfl⟩ := (readLayout_through file).eq_error_iff.mp read
    exact ⟨failed, first, (headerConditions_named file failed first.mem).symm⟩
  · intro refused
    obtain ⟨failed, first, rfl⟩ := refused
    exact ⟨failed.fault, (readLayout_through file).refused first, headerConditions_named file failed first.mem⟩

/-- A file is read exactly if its headers are in order, and what is read are the numbers that stand there. Another file
is refused for the first thing that is wrong with it. The directory never lies outside the file, and no part is ever
shorter than it was asked to be, so the checks for these are never what stops the reading. -/
theorem readLayout_accepts_format (file : Buffer) :
    ((∃ layout, readLayout file = .ok layout) ↔ ∀ condition ∈ headerConditions file, condition.holds) ∧
    (∀ layout, readLayout file = .ok layout → Describes file layout) ∧
    (∀ error, Fault.simplify (readLayout file) = .error error ↔
      ∃ failed, FirstFailed (headerConditions file) failed ∧ failed.error = error) ∧
    Fault.simplify (readLayout file) ≠ .error (.invalidHeader "data directory") ∧
    guardedLayout file = (readLayout file).mapError HeaderGuard.reported := by
  have unnamed : ∀ condition ∈ headerConditions file, condition.error ≠ .invalidHeader "data directory" := by
    unfold headerConditions
    simp only [List.forall_mem_cons, ne_eq, reduceCtorEq, BootError.invalidHeader.injEq, String.reduceEq,
      not_false_eq_true, List.not_mem_nil, false_implies, implies_true, and_true]
  refine ⟨⟨?_, ?_⟩, ?_, fun error => simplify_readLayout_eq_error_iff, ?_, guardedLayout_eq file⟩
  · intro accepted
    obtain ⟨layout, read⟩ := accepted
    exact ((readLayout_through file).eq_ok_iff.mp read).1
  · intro all
    exact ⟨declared file, (readLayout_through file).accepted all⟩
  · intro layout read
    obtain ⟨-, rfl⟩ := readLayout_eq_ok_iff.mp read
    exact describes_declared file
  · intro refused
    obtain ⟨failed, first, named⟩ := simplify_readLayout_eq_error_iff.mp refused
    exact unnamed failed first.mem named

end EfiHandoff.Image
