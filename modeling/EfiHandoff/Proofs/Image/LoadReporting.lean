import EfiHandoff.Proofs.Handoff.Reporting
import EfiHandoff.Proofs.Image.LoadFailures
import EfiHandoff.Proofs.Image.Window
import EfiHandoff.Proofs.Relocation.Confinement

/-!
# What is reported when loading an image fails

A load that fails has written an error by then, except for two flaws of the layout that only its maker could rule out:
an image too large for the address space, and a section header outside the file. Neither occurs in a layout read from
the headers. A third exception is memory that ends beyond the address space.
-/

set_option autoImplicit false

namespace EfiHandoff

open Platform Testimony

namespace Image

/-- What is wrong with a layout although nothing is written about it. -/
inductive Untold (file : Buffer) (layout : Layout) : BootError → Prop where
  | tooLarge (large : wordLimit ≤ layout.imageSize.toNat + layout.alignment.toNat) :
      Untold file layout (.invalidHeader "image too large")
  | table {index : Nat} (counted : index < layout.sectionCount.toNat)
      (outside : sectionAt file layout index = .error .tableOutsideFile) :
      Untold file layout (.invalidHeader "section table outside file")

/-- A layout that was read from the headers has none of these flaws. -/
theorem not_untold_of_readLayout {file : Buffer} {layout : Layout} {error : BootError}
    (read : readLayout file = .ok layout) : ¬Untold file layout error := by
  rintro (large | ⟨counted, outside⟩)
  · exact absurd (imageSize_alignment_lt read) (Nat.not_lt.mpr large)
  · rw [sectionAt_of_readLayout read counted] at outside
    cases outside

end Image

/-- The pool granted memory that ends beyond the address space. -/
def PoolBeyond (history : History platform) : Prop :=
  ∃ kind size grant, ⟨.allocatePool kind size, .ok grant⟩ ∈ history ∧ wordLimit < grant.address.toNat + size

theorem PoolBeyond.mono {history wider : History platform} (beyond : PoolBeyond history) (within : history ⊆ wider) :
    PoolBeyond wider := by
  obtain ⟨kind, size, grant, granted, large⟩ := beyond
  exact ⟨kind, size, grant, within granted, large⟩

def Testimony.excused (file : Buffer) (layout : Image.Layout) : Testimony platform where
  holds history _ error := Image.Untold file layout error ∨ error = .outOfMemory ∧ PoolBeyond history
  grows asked _ excuse := excuse.imp_right fun ⟨same, beyond⟩ => ⟨same, beyond.mono asked⟩

abbrev Testimony.loading (file : Buffer) (layout : Image.Layout) : Testimony platform :=
  sourced.and (spoken.or (excused file layout))

namespace Image

variable {file : Buffer} {layout : Layout} {α φ : Type} {attempt : Try α}

private theorem loading_of_told (bears : attempt.Bears (sourced.and spoken)) : attempt.Bears (loading file layout) :=
  bears.mono fun _ _ _ told => ⟨told.1, .inl told.2⟩

private theorem loading_of_loud [Fault φ] {fault : φ} {history : History platform} (loud : Fault.Loud fault) :
    (loading file layout).holds history (Fault.journal fault) (Fault.error fault) :=
  ⟨sourced_of_plain loud.2, .inl loud.1⟩

section Allocating

private theorem bufferSize_fault {fault : WindowFault} (refused : Window.bufferSize layout = .error fault) :
    Fault.Loud fault ∨ fault = .tooLarge ∧ wordLimit ≤ layout.imageSize.toNat + layout.alignment.toNat := by
  unfold Window.bufferSize at refused
  split at refused
  · obtain rfl := Except.error.inj refused
    exact .inl (loud_of_single rfl rfl)
  split at refused
  · obtain rfl := Except.error.inj refused
    exact .inl (loud_of_single rfl rfl)
  split at refused
  · next overflows =>
      refine .inr ⟨(Except.error.inj refused).symm, Nat.le_of_not_lt fun fits => ?_⟩
      rw [checkedAdd_of_lt fits] at overflows
      cases overflows
  · cases refused

theorem Window.allocate_tells :
    Attempt.Bears (loading file layout) (Window.allocate layout) := by
  refine Attempt.bears_ofChecked_bind (fun fault refused => ?_) fun size requested => ?_
  · obtain loud | ⟨rfl, large⟩ := bufferSize_fault refused
    · exact loading_of_loud loud
    · exact ⟨sourced_of_plain rfl, .inr (.inl (.tooLarge large))⟩
  refine Attempt.Bears.bindFollowing (loading_of_told (PoolBuffer.allocate_tells _ _)) fun asked buffer granting => ?_
  obtain ⟨_, -, ⟨⟩⟩ | ⟨grant, rfl, ⟨⟩⟩ := PoolBuffer.allocate_follows granting
  refine Attempt.Bears.onFailure ?_
  refine Attempt.Bears.bind (Attempt.bears_ofChecked fun fault refused => ?_) fun window => ?_
  · obtain ⟨rfl, top⟩ := Window.choose_fault refused
    obtain ⟨power, sized⟩ := bufferSize_ok requested
    obtain ⟨positive, -⟩ := alignment_dvd_wordLimit (isPowerOfTwo_iff.mp power)
    have beyond : wordLimit < grant.address.toNat + size := by
      simp only at top
      omega
    exact ⟨sourced_of_plain rfl, .inr (.inr ⟨rfl, .data, size, grant, List.mem_cons_self, beyond⟩)⟩
  · exact (Attempt.bears_lift _).bind fun _ => Attempt.bears_pure

end Allocating

section Filling

private theorem loadSection_loud {part : Section} {image : Buffer} {fault : SectionFault}
    (refused : loadSection file part image = .error fault) : Fault.Loud fault := by
  unfold loadSection at refused
  dsimp only at refused
  split at refused
  · obtain rfl := Except.error.inj refused
    exact loud_of_single rfl rfl
  split at refused
  · cases refused
  split at refused
  · obtain rfl := Except.error.inj refused
    exact loud_of_single rfl rfl
  · cases refused

private theorem loadSectionsFrom_stopped {index count : Nat} {image : Buffer} {fault : SectionFault}
    (stopped : (loadSectionsFrom file layout index count image).fault = some fault) :
    Fault.Loud fault ∨ fault = .tableOutsideFile ∧
      ∃ other < index + count, sectionAt file layout other = .error .tableOutsideFile := by
  induction count generalizing index image with
  | zero => cases stopped
  | succ count ih =>
      unfold loadSectionsFrom at stopped
      cases read : sectionAt file layout index with
      | error outside =>
          rw [read] at stopped
          obtain rfl := Option.some.inj stopped
          obtain rfl : outside = .tableOutsideFile := by
            unfold sectionAt at read
            dsimp only at read
            split at read
            · exact (Except.error.inj read).symm
            · cases read
          exact .inr ⟨rfl, index, by omega, read⟩
      | ok part =>
          rw [read] at stopped
          dsimp only at stopped
          cases put : loadSection file part image with
          | error other =>
              rw [put] at stopped
              obtain rfl := Option.some.inj stopped
              exact .inl (loadSection_loud put)
          | ok filled =>
              rw [put] at stopped
              obtain loud | ⟨same, other, below, outside⟩ := ih stopped
              · exact .inl loud
              · exact .inr ⟨same, other, by omega, outside⟩

private theorem fill_tells (image : Buffer) :
    Attempt.Bears (loading file layout) (fill file layout image) := by
  refine Attempt.Bears.bind (Attempt.bears_ofChecked fun fault refused => ?_) fun headed => ?_
  · obtain rfl := copyHeaders_fault refused
    exact loading_of_loud (loud_of_single rfl rfl)
  refine (Attempt.bears_lift _).bind fun _ => Attempt.bears_ofChecked fun fault stopped => ?_
  unfold Filled.result at stopped
  split at stopped
  · cases stopped
  · next found =>
      obtain rfl := Except.error.inj stopped
      obtain loud | ⟨rfl, index, counted, outside⟩ := loadSectionsFrom_stopped found
      · exact loading_of_loud loud
      · rw [Nat.zero_add] at counted
        exact ⟨sourced_of_plain rfl, .inr (.inl (.table counted outside))⟩

end Filling

section Settling

theorem RelocationFault.loud {fault : RelocationFault} (found : fault ≠ .entryOutside) : Fault.Loud fault := by
  cases fault with
  | entryOutside => exact absurd rfl found
  | _ => exact loud_of_single rfl rfl

private theorem relocateJournal_fault {address : UInt64} {image : MappedImage} {fault : RelocationFault}
    (stopped : (relocate layout image).verdict = .error fault) :
    Fault.journal fault ⊆ relocateJournal layout address (relocate layout image) := by
  have present : layout.hasRelocations = true := by
    by_contra absent
    rw [relocate_absent (Bool.eq_false_iff.mpr absent)] at stopped
    cases stopped
  unfold relocateJournal
  rw [present, stopped]
  cases fault with
  | tableOutside => exact List.Subset.refl _
  | _ => exact List.subset_cons_self _ _

/-- With the image where it lies in the address space, settling fails only with a report. -/
theorem settle_tells {base : UInt64} {image : Buffer} (fits : base.toNat + image.size < wordLimit) :
    Attempt.Bears (sourced.and spoken) (settle layout base image) := by
  have mapped : MappedImage.at? image base = some ⟨image, base, fits⟩ := dif_pos fits
  unfold settle
  rw [mapped]
  refine tells_reported (fun fault stopped => ⟨RelocationFault.loud ?_, relocateJournal_fault stopped⟩) fun _ => ?_
  · rintro rfl
    exact (guardedRelocate_describes layout ⟨image, base, fits⟩).1.found stopped
  · split
    · exact Attempt.bears_pure
    · exact tells_fail rfl

end Settling

theorem load_tells (file : Buffer) (layout : Layout) :
    Attempt.Bears (loading file layout) (load file layout) := by
  refine Window.allocate_tells.bindFollowing fun asked window allocating => ?_
  obtain _ | _ | _ | @⟨size, grant, _, requested, chosen⟩ := Window.allocate_follows allocating
  obtain ⟨length, blank⟩ := Window.bytes_blank requested chosen
  refine Attempt.Bears.onFailure (((fill_tells _).after _ _).bindFollowing fun quiet filled filling => ?_)
  have full : filled.size = layout.imageSize.toNat := by
    obtain ⟨parts, -, -, -, -, rfl⟩ := fill_ok length blank filling
    exact Array.size_ofFn
  refine Attempt.Bears.bind ?_ fun (bytes, entry) =>
    (Attempt.bears_lift _).bind fun _ => Attempt.bears_pure
  by_cases fits : window.base.toNat + filled.size < wordLimit
  · exact ((loading_of_told (settle_tells fits)).after _ _).after _ _
  · have beyond : wordLimit < grant.address.toNat + size := by
      have start := Window.base_toNat requested chosen
      have sized := (Window.bufferSize_ok requested).2
      obtain ⟨base, -, above, below, -, whole⟩ := Window.choose_base requested chosen
      have offset : window.offset = base - grant.address.toNat := by rw [whole]
      simp only at start above below
      omega
    have thrown : settle layout window.base filled = throw .outOfMemory := by
      unfold settle MappedImage.at?
      rw [dif_neg fits]
    rw [thrown]
    exact Attempt.bears_throw ⟨sourced_of_plain rfl, .inr (.inr ⟨rfl, .data, size, grant, List.mem_cons_self, beyond⟩)⟩

end Image

end EfiHandoff
