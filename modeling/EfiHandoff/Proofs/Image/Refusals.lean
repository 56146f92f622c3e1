import EfiHandoff.Proofs.Image.GuardedSections
import EfiHandoff.Proofs.Image.SectionTable

/-!
# Which headers and sections are refused

Loading stops at the first section that the numbers in its header rule out, and the image is then what the sections
before it made of it. No slice is taken or cut out of its bounds on the way.
-/

set_option autoImplicit false

namespace EfiHandoff.Image

section Guarded

variable {α β : Type} {file image : Buffer} {layout : Layout} {part : Section}

private theorem run_orStop_bind (guard : SectionGuard) (found : Option α) (next : α → Guarded β) :
    (orStop guard found >>= next).run image =
      match found with
      | none => .error guard image
      | some value => (next value).run image := by
  cases found <;> rfl

private theorem run_get_bind (next : Buffer → Guarded β) : (get >>= next).run image = (next image).run image := rfl

private theorem run_set_orStop {guard : SectionGuard} {found : Option Buffer} :
    (orStop guard found >>= fun filled => (set filled : Guarded PUnit)).run image =
      match found with
      | none => .error guard image
      | some filled => .ok ⟨⟩ filled := by
  cases found <;> rfl

private theorem run_guardedHeaders :
    (guardedHeaders file layout).run image =
      match copyHeaders file layout image with
      | .ok headed => .ok ⟨⟩ headed
      | .error fault => .error (.reported fault) image := by
  unfold guardedHeaders copyHeaders
  rw [run_get_bind]
  dsimp only
  rw [run_orStop_bind]
  cases source : Extent.within? file.size 0 layout.headersSize.toNat with
  | none => rfl
  | some run =>
      dsimp only
      rw [run_orStop_bind]
      cases target : Extent.within? image.size 0 layout.headersSize.toNat with
      | none => rfl
      | some place =>
          obtain ⟨rfl, inFile⟩ := Extent.within?_sound source
          obtain ⟨rfl, inImage⟩ := Extent.within?_sound target
          dsimp only
          rw [run_orStop_bind, Extent.of?_of_le inFile]
          dsimp only
          rw [run_orStop_bind, Extent.of?_of_le inImage]
          dsimp only
          rw [run_set_orStop, Buffer.copyOver?, if_pos ⟨inImage, Buffer.size_slice inFile⟩,
            Buffer.copy_eq_overwrite inFile]

private theorem Section.ofHeader_slice {place : Nat} :
    Section.ofHeader (file.slice place sectionHeaderSize) =
      { name := (file.slice place 8).toList
        virtualSize := UInt32.ofNat (file.word (place + 8) 4)
        virtualAddress := UInt32.ofNat (file.word (place + 12) 4)
        rawSize := UInt32.ofNat (file.word (place + 16) 4)
        rawOffset := UInt32.ofNat (file.word (place + 20) 4) } := by
  unfold ofHeader
  rw [Buffer.slice_slice file (by decide), Buffer.word_slice _ _ _ _ _ (by decide),
    Buffer.word_slice _ _ _ _ _ (by decide), Buffer.word_slice _ _ _ _ _ (by decide),
    Buffer.word_slice _ _ _ _ _ (by decide), Nat.add_zero]

private theorem run_guardedRecord {index : Nat} :
    (guardedRecord file layout index).run image =
      match sectionAt file layout index with
      | .ok part => .ok part image
      | .error fault => .error (.reported fault) image := by
  unfold guardedRecord sectionAt
  rw [run_orStop_bind]
  cases summed : checkedAdd (index * sectionHeaderSize) layout.sectionTable.toNat with
  | none => rfl
  | some place =>
      dsimp only
      rw [run_orStop_bind, Option.bind_some]
      cases accepted : Extent.within? file.size place sectionHeaderSize with
      | none => rfl
      | some run =>
          obtain ⟨rfl, inside⟩ := Extent.within?_sound accepted
          dsimp only
          rw [run_orStop_bind, Extent.of?_of_le inside]
          dsimp only
          rw [if_pos (Buffer.size_slice inside), Section.ofHeader_slice]
          rfl

private theorem run_guardedTail {start length copied : Nat} (room : start + length ≤ image.size)
    (short : copied ≤ length) :
    (guardedTail ⟨start, length⟩ copied).run image = .ok ⟨⟩ (image.clear (start + copied) (length - copied)) := by
  unfold guardedTail
  rw [run_orStop_bind, Extent.tail?, if_pos short]
  dsimp only
  rw [run_get_bind, run_set_orStop, Buffer.clearOver?, if_pos (by dsimp only; omega)]

private theorem run_guardedData {start length : Nat} (room : start + length ≤ image.size)
    (short : part.copySize.toNat ≤ length) :
    (guardedData file part ⟨start, length⟩).run image =
      match Extent.within? file.size part.rawOffset.toNat part.copySize.toNat with
      | none => .error (.reported (.outsideFile part)) image
      | some source => .ok ⟨⟩ (image.copy start file source.offset part.copySize.toNat) := by
  unfold guardedData
  dsimp only
  rw [run_orStop_bind]
  cases accepted : Extent.within? file.size part.rawOffset.toNat part.copySize.toNat with
  | none => rfl
  | some source =>
      obtain ⟨rfl, inside⟩ := Extent.within?_sound accepted
      dsimp only
      rw [run_orStop_bind, Extent.of?_of_le inside]
      dsimp only
      rw [run_orStop_bind, Extent.head?, if_pos short]
      dsimp only
      have fits : start + part.copySize.toNat ≤ image.size := by omega
      rw [run_get_bind, run_set_orStop, Buffer.copyOver?, if_pos ⟨fits, Buffer.size_slice inside⟩,
        Buffer.copy_eq_overwrite inside]

private theorem run_guardedSection :
    (guardedSection file part).run image =
      match loadSection file part image with
      | .ok filled => .ok ⟨⟩ filled
      | .error fault => .error (.reported fault) image := by
  have short := part.copySize_le
  unfold guardedSection loadSection
  rw [run_get_bind]
  dsimp only
  rw [run_orStop_bind]
  cases accepted : Extent.within? image.size part.virtualAddress.toNat part.virtualSize.toNat with
  | none => rfl
  | some target =>
      obtain ⟨rfl, room⟩ := Extent.within?_sound accepted
      dsimp only
      rw [run_orStop_bind, Extent.of?_of_le room]
      dsimp only
      by_cases empty : part.copySize.toNat = 0
      · have nothing : ¬ part.copySize ≠ 0 := not_not.mpr (UInt32.toNat_inj.mp empty)
        rw [if_pos empty, if_neg nothing, run_guardedTail room short]
      · have data : part.copySize ≠ 0 := fun same => empty (congrArg UInt32.toNat same)
        rw [if_neg empty, if_pos data, EStateM.run_bind, run_guardedData room short]
        cases source : Extent.within? file.size part.rawOffset.toNat part.copySize.toNat with
        | none => rfl
        | some run =>
            dsimp only
            rw [run_guardedTail (by rwa [Buffer.size_copy]) short]

private theorem run_guardedSectionsFrom {index count : Nat} :
    (guardedSectionsFrom file layout index count).run image =
      match (loadSectionsFrom file layout index count image).fault with
      | none => .ok ⟨⟩ (loadSectionsFrom file layout index count image).image
      | some fault => .error (.reported fault) (loadSectionsFrom file layout index count image).image := by
  induction count generalizing index image with
  | zero => rfl
  | succ count ih =>
      unfold guardedSectionsFrom loadSectionsFrom
      rw [EStateM.run_bind, run_guardedRecord]
      cases read : sectionAt file layout index with
      | error fault => rfl
      | ok part =>
          dsimp only
          rw [EStateM.run_bind, run_guardedSection]
          cases put : loadSection file part image with
          | error fault => rfl
          | ok filled => exact ih

end Guarded

/-- How section number `index` is refused for an image of `size` bytes, and with which error. -/
inductive SectionRefused (file : Buffer) (layout : Layout) (size index : Nat) : SectionFault → BootError → Prop
  | table (outside : file.size < layout.headerPlace index + sectionHeaderSize) :
      SectionRefused file layout size index .tableOutsideFile (.invalidHeader "section table outside file")
  | image {part : Section} (inside : layout.headerPlace index + sectionHeaderSize ≤ file.size)
      (listed : part = listedSection file layout index)
      (outside : size < part.virtualAddress.toNat + part.virtualSize.toNat) :
      SectionRefused file layout size index (.outsideImage part size) .sectionOutOfRange
  | data {part : Section} (inside : layout.headerPlace index + sectionHeaderSize ≤ file.size)
      (listed : part = listedSection file layout index)
      (room : part.virtualAddress.toNat + part.virtualSize.toNat ≤ size)
      (filled : 0 < min part.virtualSize.toNat part.rawSize.toNat)
      (outside : file.size < part.rawOffset.toNat + min part.virtualSize.toNat part.rawSize.toNat) :
      SectionRefused file layout size index (.outsideFile part) .sectionOutOfRange

/-- Section number `index` is the first in table order that is refused. -/
structure FirstRefused (file : Buffer) (layout : Layout) (size index : Nat) (fault : SectionFault)
    (error : BootError) : Prop where
  counted : index < layout.sectionCount.toNat
  refused : SectionRefused file layout size index fault error
  earlier : ∀ other < index, ∀ fault error, ¬ SectionRefused file layout size other fault error

section Refused

variable {file image filled : Buffer} {layout : Layout} {part : Section} {index : Nat} {fault : SectionFault}
  {error : BootError}

private theorem SectionRefused.error_eq {size : Nat} (refused : SectionRefused file layout size index fault error) :
    error = Fault.error fault := by
  cases refused <;> rfl

def putSection (file : Buffer) (layout : Layout) (index : Nat) (image : Buffer) : Except SectionFault Buffer :=
  (sectionAt file layout index).bind (loadSection file · image)

private theorem size_of_putSection (put : putSection file layout index image = .ok filled) :
    filled.size = image.size := by
  unfold putSection at put
  cases read : sectionAt file layout index with
  | error fault =>
      rw [read] at put
      cases put
  | ok part =>
      rw [read] at put
      exact (loadSection_ok put).2.1

private theorem loadSectionsFrom_of_refused {rest : Nat} (refused : putSection file layout index image = .error fault) :
    loadSectionsFrom file layout index (rest + 1) image = ⟨image, [], some fault⟩ := by
  unfold putSection at refused
  unfold loadSectionsFrom
  cases read : sectionAt file layout index with
  | error other =>
      rw [read] at refused
      cases refused
      rfl
  | ok part =>
      rw [read] at refused
      dsimp only
      rw [show loadSection file part image = .error fault from refused]

private theorem loadSectionsFrom_of_put {rest : Nat} (put : putSection file layout index image = .ok filled) :
    ∃ part, loadSectionsFrom file layout index (rest + 1) image =
      let others := loadSectionsFrom file layout (index + 1) rest filled
      { others with loaded := part :: others.loaded } := by
  unfold putSection at put
  rw [loadSectionsFrom]
  cases read : sectionAt file layout index with
  | error fault =>
      rw [read] at put
      cases put
  | ok part =>
      rw [read] at put
      dsimp only
      rw [show loadSection file part image = .ok filled from put]
      exact ⟨part, rfl⟩

theorem loadSection_error_iff (fileBounded : file.size ≤ wordLimit) (imageBounded : image.size ≤ wordLimit) :
    loadSection file part image = .error fault ↔
      (image.size < part.virtualAddress.toNat + part.virtualSize.toNat ∧
        fault = .outsideImage part image.size) ∨
      (part.virtualAddress.toNat + part.virtualSize.toNat ≤ image.size ∧ 0 < part.copySize.toNat ∧
        file.size < part.rawOffset.toNat + part.copySize.toNat ∧ fault = .outsideFile part) := by
  unfold loadSection
  by_cases room : part.virtualAddress.toNat + part.virtualSize.toNat ≤ image.size
  · rw [Extent.within?_of_le imageBounded room]
    dsimp only
    by_cases empty : part.copySize.toNat = 0
    · rw [if_pos empty]
      constructor
      · intro refused
        cases refused
      · rintro (⟨outside, -⟩ | ⟨-, filled, -, -⟩) <;> omega
    · rw [if_neg empty]
      by_cases inside : part.rawOffset.toNat + part.copySize.toNat ≤ file.size
      · rw [Extent.within?_of_le fileBounded inside]
        constructor
        · intro refused
          cases refused
        · rintro (⟨outside, -⟩ | ⟨-, -, outside, -⟩) <;> omega
      · rw [(Extent.within?_eq_none_iff fileBounded).mpr (by omega)]
        constructor
        · intro refused
          exact .inr ⟨room, by omega, by omega, (Except.error.inj refused).symm⟩
        · rintro (⟨outside, -⟩ | ⟨-, -, -, rfl⟩)
          · omega
          · rfl
  · rw [(Extent.within?_eq_none_iff imageBounded).mpr (by omega)]
    constructor
    · intro refused
      exact .inl ⟨by omega, (Except.error.inj refused).symm⟩
    · rintro (⟨-, rfl⟩ | ⟨inside, -, -, -⟩)
      · rfl
      · omega

theorem putSection_error_iff (fileBounded : file.size ≤ wordLimit) (imageBounded : image.size ≤ wordLimit) :
    putSection file layout index image = .error fault ↔
      SectionRefused file layout image.size index fault (Fault.error fault) := by
  unfold putSection
  by_cases inside : layout.headerPlace index + sectionHeaderSize ≤ file.size
  · rw [sectionAt_of_inside (Nat.le_trans inside fileBounded) inside]
    dsimp only [Except.bind]
    rw [loadSection_error_iff fileBounded imageBounded, Section.copySize_toNat]
    constructor
    · rintro (⟨outside, rfl⟩ | ⟨room, filled, outside, rfl⟩)
      · exact .image inside rfl outside
      · exact .data inside rfl room filled outside
    · intro refused
      cases refused with
      | table outside => exact absurd inside (Nat.not_le.mpr outside)
      | image _ listed outside =>
          subst listed
          exact .inl ⟨outside, rfl⟩
      | data _ listed room filled outside =>
          subst listed
          exact .inr ⟨room, filled, outside, rfl⟩
  · rw [sectionAt_of_outside (Nat.not_le.mp inside)]
    constructor
    · intro refused
      cases refused
      exact .table (Nat.not_le.mp inside)
    · intro refused
      cases refused with
      | table => rfl
      | image reached => exact absurd reached inside
      | data reached => exact absurd reached inside

private theorem putSection_of_accepted (fileBounded : file.size ≤ wordLimit) (imageBounded : image.size ≤ wordLimit)
    (accepted : ∀ fault error, ¬ SectionRefused file layout image.size index fault error) :
    ∃ filled, putSection file layout index image = .ok filled ∧ filled.size = image.size := by
  cases put : putSection file layout index image with
  | ok filled => exact ⟨filled, rfl, size_of_putSection put⟩
  | error fault => exact absurd ((putSection_error_iff fileBounded imageBounded).mp put) (accepted _ _)

private theorem loadSectionsFrom_of_accepted {count : Nat} (fileBounded : file.size ≤ wordLimit)
    (imageBounded : image.size ≤ wordLimit)
    (accepted : ∀ other, index ≤ other → other < index + count →
      ∀ fault error, ¬ SectionRefused file layout image.size other fault error) :
    (loadSectionsFrom file layout index count image).fault = none := by
  induction count generalizing index image with
  | zero => rfl
  | succ count ih =>
      obtain ⟨filled, put, size⟩ :=
        putSection_of_accepted fileBounded imageBounded (accepted index (Nat.le_refl _) (by omega))
      obtain ⟨part, same⟩ := loadSectionsFrom_of_put put
      rw [same]
      refine ih (size ▸ imageBounded) fun other lower upper => ?_
      rw [size]
      exact accepted other (by omega) (by omega)

/-- Loading stops at a section that is refused when none before it is, and the sections before it are in place. -/
theorem loadSectionsFrom_stops {before rest : Nat} (fileBounded : file.size ≤ wordLimit)
    (imageBounded : image.size ≤ wordLimit)
    (refused : SectionRefused file layout image.size (index + before) fault error)
    (earlier : ∀ other, index ≤ other → other < index + before →
      ∀ fault error, ¬ SectionRefused file layout image.size other fault error) :
    (loadSectionsFrom file layout index (before + rest + 1) image).fault = some fault ∧
      (loadSectionsFrom file layout index before image).result =
        .ok (loadSectionsFrom file layout index (before + rest + 1) image).image := by
  -- refusal depends on the image only by its size, which the sections before keep
  induction before generalizing index image with
  | zero =>
      have put : putSection file layout index image = .error fault :=
        (putSection_error_iff fileBounded imageBounded).mpr (refused.error_eq ▸ refused)
      rw [loadSectionsFrom_of_refused put]
      exact ⟨rfl, rfl⟩
  | succ before ih =>
      obtain ⟨filled, put, size⟩ :=
        putSection_of_accepted fileBounded imageBounded (earlier index (Nat.le_refl _) (by omega))
      obtain ⟨part, whole⟩ := loadSectionsFrom_of_put put
      obtain ⟨part, first⟩ := loadSectionsFrom_of_put put
      rw [Nat.add_right_comm before 1 rest, whole, first]
      rw [← size] at imageBounded refused earlier
      rw [Nat.add_comm before 1, ← Nat.add_assoc] at refused earlier
      exact ih imageBounded refused fun other lower upper => earlier other (by omega) upper

private theorem loadSections_stops (fileBounded : file.size ≤ wordLimit) (imageBounded : image.size ≤ wordLimit)
    (first : FirstRefused file layout image.size index fault error) :
    (loadSections file layout image).fault = some fault ∧
      (loadSectionsFrom file layout 0 index image).result = .ok (loadSections file layout image).image := by
  obtain ⟨rest, total⟩ := Nat.exists_eq_add_of_lt first.counted
  unfold loadSections
  rw [total]
  have refused : SectionRefused file layout image.size (0 + index) fault error := by
    rw [Nat.zero_add]
    exact first.refused
  refine loadSectionsFrom_stops fileBounded imageBounded refused fun other _ before => ?_
  exact first.earlier other (by omega)

private theorem firstRefused_of_fault (fileBounded : file.size ≤ wordLimit) (imageBounded : image.size ≤ wordLimit)
    (stopped : (loadSections file layout image).fault = some fault) :
    ∃ index, FirstRefused file layout image.size index fault (Fault.error fault) := by
  have found : ∃ index, index < layout.sectionCount.toNat ∧
      ∃ fault error, SectionRefused file layout image.size index fault error := by
    by_contra clear
    have clean : (loadSections file layout image).fault = none :=
      loadSectionsFrom_of_accepted fileBounded imageBounded fun other _ upper fault error refused =>
        clear ⟨other, by omega, fault, error, refused⟩
    rw [clean] at stopped
    cases stopped
  classical
  obtain ⟨counted, other, error, refused⟩ := Nat.find_spec found
  have first : FirstRefused file layout image.size (Nat.find found) other error :=
    ⟨counted, refused, fun earlier before fault error refused =>
      Nat.find_min found before ⟨before.trans counted, fault, error, refused⟩⟩
  have same := (loadSections_stops fileBounded imageBounded first).1
  rw [stopped] at same
  obtain rfl := Option.some.inj same
  obtain rfl := refused.error_eq
  exact ⟨_, first⟩

theorem copyHeaders_fault (refused : copyHeaders file layout image = .error fault) :
    fault = .headers layout.headersSize.toNat := by
  unfold copyHeaders at refused
  dsimp only at refused
  split at refused
  · cases refused
  · exact (Except.error.inj refused).symm

theorem copyHeaders_error_iff :
    copyHeaders file layout image = .error fault ↔
      (file.size < layout.headersSize.toNat ∨ image.size < layout.headersSize.toNat) ∧
        fault = .headers layout.headersSize.toNat := by
  constructor
  · intro refused
    refine ⟨?_, copyHeaders_fault refused⟩
    by_contra fits
    have copies : ∃ filled, copyHeaders file layout image = .ok filled :=
      copyHeaders_of_fits (by omega) (by omega)
    obtain ⟨filled, copied⟩ := copies
    rw [copied] at refused
    cases refused
  · intro assumed
    obtain ⟨outside, rfl⟩ := assumed
    cases copied : copyHeaders file layout image with
    | ok filled =>
        obtain ⟨inFile, inImage, -, -⟩ := copyHeaders_ok copied
        omega
    | error fault => rw [copyHeaders_fault copied]

end Refused

/-- Headers are refused when they are longer than the file or the image, sections from the first one that its own
header rules out. What was refused has then written nothing: the image is as it was, or as the sections before left
it. The guarded loading does the same, so no slice is taken out of its bounds. -/
theorem sections_fail_closed (file : Buffer) (layout : Layout) (image : Buffer)
    (fileBounded : file.size ≤ wordLimit) (imageBounded : image.size ≤ wordLimit) :
    ((∀ fault error, copyHeaders file layout image = .error fault ∧ Fault.error fault = error ↔
        (file.size < layout.headersSize.toNat ∨ image.size < layout.headersSize.toNat) ∧
          fault = .headers layout.headersSize.toNat ∧ error = .invalidHeader "headers exceed image") ∧
      (guardedHeaders file layout).run image =
        match copyHeaders file layout image with
        | .ok headed => .ok ⟨⟩ headed
        | .error fault => .error (.reported fault) image) ∧
    (∀ fault error, (loadSections file layout image).fault = some fault ∧ Fault.error fault = error ↔
      ∃ index, FirstRefused file layout image.size index fault error) ∧
    (∀ index fault error, FirstRefused file layout image.size index fault error →
      (loadSectionsFrom file layout 0 index image).result = .ok (loadSections file layout image).image) ∧
    (guardedSections file layout).run image =
      match (loadSections file layout image).fault with
      | none => .ok ⟨⟩ (loadSections file layout image).image
      | some fault => .error (.reported fault) (loadSections file layout image).image := by
  refine ⟨⟨fun fault error => ?_, run_guardedHeaders⟩, fun fault error => ?_, fun index fault error first => ?_,
    run_guardedSectionsFrom⟩
  · rw [copyHeaders_error_iff]
    constructor
    · intro assumed
      obtain ⟨⟨outside, rfl⟩, rfl⟩ := assumed
      exact ⟨outside, rfl, rfl⟩
    · intro assumed
      obtain ⟨outside, rfl, rfl⟩ := assumed
      exact ⟨⟨outside, rfl⟩, rfl⟩
  · constructor
    · intro assumed
      obtain ⟨stopped, rfl⟩ := assumed
      exact firstRefused_of_fault fileBounded imageBounded stopped
    · intro assumed
      obtain ⟨index, first⟩ := assumed
      exact ⟨(loadSections_stops fileBounded imageBounded first).1, first.refused.error_eq.symm⟩
  · exact (loadSections_stops fileBounded imageBounded first).2

/-- The file ends inside the data of the second section: the first one is in place, and nothing of the second. -/
theorem sections_fail_closed_truncated :
    ∃ fault, FirstRefused (overlappingFile.slice 0 101) overlappingLayout 40 1 fault .sectionOutOfRange ∧
      (loadSections (overlappingFile.slice 0 101) overlappingLayout (Array.replicate 40 0xee)).fault = some fault ∧
      (loadSections (overlappingFile.slice 0 101) overlappingLayout (Array.replicate 40 0xee)).image =
        Array.replicate 16 0xee ++ #[0, 0, 0, 0, 12, 0, 0, 0, 0, 0x30, 0, 0] ++ Array.replicate 8 0 ++
          Array.replicate 4 0xee := by
  let file := overlappingFile.slice 0 101
  let image : Buffer := Array.replicate 40 0xee
  have size : file.size = 101 := by decide +kernel
  have opening : listedSection file overlappingLayout 0 = ⟨List.replicate 8 0, 16, 20, 88, 12⟩ := by decide +kernel
  have second : listedSection file overlappingLayout 1 = ⟨List.replicate 8 0, 24, 8, 100, 2⟩ := by decide +kernel
  obtain ⟨-, stops, left, -⟩ :=
    sections_fail_closed file overlappingLayout image (by rw [size]; decide) (by decide)
  have first : FirstRefused file overlappingLayout 40 1 (.outsideFile ⟨List.replicate 8 0, 24, 8, 100, 2⟩)
      .sectionOutOfRange := by
    refine ⟨by decide, .data (by rw [size]; decide) second.symm (by decide) (by decide) (by rw [size]; decide), ?_⟩
    intro other before fault error refused
    obtain rfl : other = 0 := by omega
    cases refused with
    | table outside => exact absurd outside (by rw [size]; decide)
    | image _ listed outside =>
        rw [opening] at listed
        subst listed
        exact absurd outside (by decide)
    | data _ listed _ _ outside =>
        rw [opening] at listed
        subst listed
        exact absurd outside (by rw [size]; decide)
  refine ⟨_, first, ((stops _ _).mpr ⟨1, first⟩).1, ?_⟩
  have alone : (loadSectionsFrom file overlappingLayout 0 1 image).result = .ok
      (Array.replicate 16 0xee ++ #[0, 0, 0, 0, 12, 0, 0, 0, 0, 0x30, 0, 0] ++ Array.replicate 8 0 ++
        Array.replicate 4 0xee) := by
    decide +kernel
  exact Except.ok.inj ((left 1 _ _ first).symm.trans alone)

end EfiHandoff.Image
