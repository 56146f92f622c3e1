import EfiHandoff.Proofs.Relocation.Scan

/-!
# Fixups beside each other

Fixups that have no byte in common do not see each other. Two moves by the same fixup are one move by the sum of
the distances, and so are two moves by a list of fixups that are beside each other or patch the very same bytes.
-/

set_option autoImplicit false

namespace EfiHandoff.Image

namespace Fixup

def Beside (left right : Fixup) : Prop := left.last ≤ right.target ∨ right.last ≤ left.target

instance (left right : Fixup) : Decidable (left.Beside right) :=
  inferInstanceAs (Decidable (left.last ≤ right.target ∨ right.last ≤ left.target))

theorem Beside.symm {left right : Fixup} (beside : left.Beside right) : right.Beside left := Or.symm beside

/-- The bytes the two patch are disjoint or the same. -/
def Separable (left right : Fixup) : Prop :=
  left.Beside right ∨ left.target = right.target ∧ left.last = right.last

instance (left right : Fixup) : Decidable (left.Separable right) :=
  inferInstanceAs (Decidable (left.Beside right ∨ left.target = right.target ∧ left.last = right.last))

/-- The fixup lies in an image of `size` bytes and adds the distance itself, not its high half. -/
structure Whole (size : Nat) (fixup : Fixup) : Prop where
  kind : fixup.kind ≠ .high
  inside : fixup.last ≤ size

end Fixup

section Words

variable {delta : UInt64} {image : Buffer} {fixup : Fixup} {fixups : List Fixup}

private theorem word_of_beside {others : List Fixup} (beside : ∀ other ∈ others, fixup.Beside other) :
    (applyFixups delta others image).word fixup.target fixup.kind.width =
      image.word fixup.target fixup.kind.width := by
  refine Buffer.word_congr fun index low high => applyFixups_frame fun other member => ?_
  have apart := beside other member
  unfold Fixup.Beside Fixup.last at apart
  unfold Fixup.last
  omega

private theorem Fixup.word_apply_of_beside {other : Fixup} (beside : fixup.Beside other) :
    (other.apply delta image).word fixup.target fixup.kind.width =
      image.word fixup.target fixup.kind.width :=
  word_of_beside (List.forall_mem_singleton.mpr beside)

/-- Where no byte is patched twice, each fixup finds the value that stood there at first. -/
theorem word_applyFixups (beside : fixups.Pairwise Fixup.Beside) (member : fixup ∈ fixups)
    (inside : fixup.last ≤ image.size) :
    (applyFixups delta fixups image).word fixup.target fixup.kind.width =
      (image.word fixup.target fixup.kind.width + fixup.kind.addend delta) % 256 ^ fixup.kind.width := by
  induction fixups generalizing image with
  | nil => cases member
  | cons first rest ih =>
      obtain ⟨own, others⟩ := List.pairwise_cons.mp beside
      change (applyFixups delta rest (first.apply delta image)).word _ _ = _
      cases member with
      | head => rw [word_of_beside own, Fixup.word_apply delta inside]
      | tail _ later =>
          rw [ih others later (by rwa [Fixup.size_apply]),
            Fixup.word_apply_of_beside (own fixup later).symm]

end Words

section Moves

variable {first second : UInt64} {image : Buffer}

private theorem FixupKind.width_injective {left right : FixupKind} (leftWhole : left ≠ .high)
    (rightWhole : right ≠ .high) (same : left.width = right.width) : left = right := by
  cases left <;> cases right <;> simp_all [width]

/-- What two distances add to a value is what their sum adds, up to the width of the value. -/
theorem FixupKind.addend_add {kind : FixupKind} (whole : kind ≠ .high) (first second : UInt64) (value : Nat) :
    ((value + kind.addend first) % 256 ^ kind.width + kind.addend second) % 256 ^ kind.width =
      (value + kind.addend (first + second)) % 256 ^ kind.width := by
  cases kind with
  | high => contradiction
  | absolute | low | highLow | dir64 =>
      simp only [addend, width, UInt64.toNat_add]
      omega

namespace Fixup

private theorem apply_apply {fixup : Fixup} (whole : fixup.Whole image.size) :
    fixup.apply second (fixup.apply first image) = fixup.apply (first + second) image := by
  have found := fixup.word_apply first whole.inside
  have sum : Bytes.ofNat fixup.kind.width ((image.word fixup.target fixup.kind.width +
        fixup.kind.addend first) % 256 ^ fixup.kind.width + fixup.kind.addend second) =
      Bytes.ofNat fixup.kind.width
        (image.word fixup.target fixup.kind.width + fixup.kind.addend (first + second)) := by
    rw [← Bytes.ofNat_mod, FixupKind.addend_add whole.kind, Bytes.ofNat_mod]
  unfold apply FixupKind.patch at found ⊢
  rw [found, sum]
  refine Buffer.overwrite_overwrite ?_ ?_
  · rw [Bytes.length_ofNat, Bytes.length_ofNat]
  · rw [Bytes.length_ofNat]
    exact whole.inside

/-- Moving by no distance changes nothing, wherever the fixup points. -/
theorem apply_zero (fixup : Fixup) (image : Buffer) : fixup.apply 0 image = image := by
  have nothing : fixup.kind.addend 0 = 0 := by cases fixup.kind <;> rfl
  unfold apply FixupKind.patch
  rw [nothing]
  exact Buffer.overwrite_word

private theorem apply_comm {left right : Fixup} (leftWhole : left.Whole image.size)
    (rightWhole : right.Whole image.size) (separable : left.Separable right) :
    right.apply second (left.apply first image) = left.apply first (right.apply second image) := by
  obtain beside | ⟨sameTarget, sameLast⟩ := separable
  · have leftWord : (right.apply second image).word left.target left.kind.width =
        image.word left.target left.kind.width := word_apply_of_beside beside
    have rightWord : (left.apply first image).word right.target right.kind.width =
        image.word right.target right.kind.width := word_apply_of_beside beside.symm
    unfold apply FixupKind.patch at leftWord rightWord ⊢
    rw [leftWord, rightWord]
    refine Buffer.overwrite_comm ?_ ?_ ?_ <;> rw [Bytes.length_ofNat]
    · exact leftWhole.inside
    · exact rightWhole.inside
    · rw [Bytes.length_ofNat]
      exact beside
  · have sameKind : left.kind = right.kind := by
      refine FixupKind.width_injective leftWhole.kind rightWhole.kind ?_
      unfold last at sameLast
      omega
    obtain rfl : left = right := by
      cases left
      cases right
      cases sameTarget
      cases sameKind
      rfl
    rw [apply_apply leftWhole, apply_apply leftWhole, UInt64.add_comm]

end Fixup

variable {fixups : List Fixup}

private theorem applyFixups_apply {fixup : Fixup} (own : fixup.Whole image.size)
    (whole : ∀ other ∈ fixups, other.Whole image.size) (separable : ∀ other ∈ fixups, fixup.Separable other) :
    applyFixups first fixups (fixup.apply second image) = fixup.apply second (applyFixups first fixups image) := by
  induction fixups generalizing image with
  | nil => rfl
  | cons other rest ih =>
      obtain ⟨headWhole, restWhole⟩ := List.forall_mem_cons.mp whole
      obtain ⟨headSeparable, restSeparable⟩ := List.forall_mem_cons.mp separable
      change applyFixups first rest (other.apply first (fixup.apply second image)) =
        fixup.apply second (applyFixups first rest (other.apply first image))
      rw [Fixup.apply_comm own headWhole headSeparable]
      rw [← Fixup.size_apply first image other] at own restWhole
      exact ih own restWhole restSeparable

/-- Two moves are one move by the sum of the distances. -/
theorem applyFixups_applyFixups (whole : ∀ fixup ∈ fixups, fixup.Whole image.size)
    (separable : fixups.Pairwise Fixup.Separable) :
    applyFixups second fixups (applyFixups first fixups image) = applyFixups (first + second) fixups image := by
  induction fixups generalizing image with
  | nil => rfl
  | cons fixup rest ih =>
      obtain ⟨own, restWhole⟩ := List.forall_mem_cons.mp whole
      obtain ⟨others, restSeparable⟩ := List.pairwise_cons.mp separable
      have moved : fixup.Whole (fixup.apply first image).size := by rwa [Fixup.size_apply]
      have restMoved := restWhole
      rw [← Fixup.size_apply first image fixup] at restMoved
      rw [← Fixup.size_apply (first + second) image fixup] at restWhole
      calc applyFixups second rest (fixup.apply second (applyFixups first rest (fixup.apply first image)))
          = applyFixups second rest (applyFixups first rest (fixup.apply second (fixup.apply first image))) := by
            rw [applyFixups_apply moved restMoved others]
        _ = applyFixups second rest (applyFixups first rest (fixup.apply (first + second) image)) := by
            rw [Fixup.apply_apply own]
        _ = applyFixups (first + second) rest (fixup.apply (first + second) image) :=
            ih restWhole restSeparable

theorem applyFixups_zero (fixups : List Fixup) (image : Buffer) : applyFixups 0 fixups image = image := by
  induction fixups generalizing image with
  | nil => rfl
  | cons fixup rest ih =>
      change applyFixups 0 rest (fixup.apply 0 image) = image
      rw [Fixup.apply_zero, ih]

end Moves

end EfiHandoff.Image
