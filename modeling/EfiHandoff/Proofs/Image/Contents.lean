import EfiHandoff.Proofs.Bounds
import EfiHandoff.Proofs.Image.Loading
import EfiHandoff.Proofs.Relocation.Basic
import EfiHandoff.Simulation.InMemory

/-!
# What a loaded image holds

The bytes of an image before it is relocated, said place by place: a section that covers the place decides, the last
of them if there are several; then the headers; and what none of them reaches is zero.
-/

set_option autoImplicit false

namespace EfiHandoff.Image

open Platform

namespace Section

def covers (part : Section) (place : Nat) : Bool :=
  part.virtualAddress.toNat ≤ place ∧ place < part.virtualAddress.toNat + part.virtualSize.toNat

/-- What the section puts at a place of the image. -/
def byteAt (part : Section) (file : Buffer) (place : Nat) : UInt8 :=
  let index := place - part.virtualAddress.toNat
  if index < part.copySize.toNat then file.getD (part.rawOffset.toNat + index) 0 else 0

/-- The section lies in an image of `size` bytes, and its data lie in the file. -/
structure Fits (part : Section) (file : Buffer) (size : Nat) : Prop where
  image : part.virtualAddress.toNat + part.virtualSize.toNat ≤ size
  file : 0 < part.copySize.toNat → part.rawOffset.toNat + part.copySize.toNat ≤ file.size

end Section

def sections (file : Buffer) (layout : Layout) : Except SectionFault (List Section) :=
  (List.range' 0 layout.sectionCount.toNat).mapM (sectionAt file layout)

/-- What stands at a place when sections were put over what was there before, one after the other. -/
def overlay (file : Buffer) (parts : List Section) (below : Nat → UInt8) (place : Nat) : UInt8 :=
  match parts.reverse.find? (·.covers place) with
  | some part => part.byteAt file place
  | none => below place

def headerByte (file : Buffer) (layout : Layout) (place : Nat) : UInt8 :=
  if place < layout.headersSize.toNat then file.getD place 0 else 0

/-- The image before it is relocated. -/
def contents (file : Buffer) (layout : Layout) (parts : List Section) : Buffer :=
  Array.ofFn fun place : Fin layout.imageSize.toNat =>
    overlay file parts (headerByte file layout) place

/-- The bytes of an image are what a function says about each of its places. -/
def HasBytes (image : Buffer) (bytes : Nat → UInt8) : Prop :=
  ∀ place < image.size, image[place]? = some (bytes place)

theorem hasBytes_getD (image : Buffer) : HasBytes image fun place => image.getD place 0 := by
  intro place inside
  dsimp only
  rw [Array.getD_eq_getD_getElem?, Array.getElem?_eq_getElem inside, Option.getD_some]

section Filling

variable {file image filled : Buffer} {layout : Layout} {part : Section} {parts : List Section}
  {below : Nat → UInt8}

theorem Section.copySize_le (part : Section) : part.copySize.toNat ≤ part.virtualSize.toNat := by
  unfold copySize
  rw [UInt32.min_def]
  split
  · exact Nat.le_refl _
  · next above => exact Nat.le_of_not_le above

theorem Section.covers_iff {place : Nat} :
    part.covers place = true ↔ part.virtualAddress.toNat ≤ place ∧
      place < part.virtualAddress.toNat + part.virtualSize.toNat := by
  unfold covers
  rw [decide_eq_true_iff]

theorem overlay_cons (place : Nat) :
    overlay file (part :: parts) below place =
      overlay file parts (fun place => if part.covers place then part.byteAt file place else below place)
        place := by
  unfold overlay
  rw [List.reverse_cons, List.find?_append]
  cases found : parts.reverse.find? (·.covers place) with
  | some other => rfl
  | none =>
      rw [Option.none_or]
      cases covered : part.covers place <;> simp [covered]

private theorem section_bytes (room : part.virtualAddress.toNat + part.virtualSize.toNat ≤ image.size)
    (place : Nat) :
    ((image.copy part.virtualAddress.toNat file part.rawOffset.toNat part.copySize.toNat).clear
        (part.virtualAddress.toNat + part.copySize.toNat)
        (part.virtualSize.toNat - part.copySize.toNat))[place]? =
      if part.covers place then some (part.byteAt file place) else image[place]? := by
  have tail := part.copySize_le
  by_cases covered : part.covers place = true
  · rw [if_pos covered]
    obtain ⟨lower, upper⟩ := Section.covers_iff.mp covered
    obtain ⟨lane, rfl⟩ := Nat.exists_eq_add_of_le lower
    unfold Section.byteAt
    rw [Nat.add_sub_cancel_left]
    by_cases data : lane < part.copySize.toNat
    · rw [if_pos data, Buffer.clear_frame (Or.inl (by omega))]
      exact Buffer.copy_covered (by omega) data
    · rw [if_neg data]
      obtain ⟨rest, rfl⟩ := Nat.exists_eq_add_of_le (Nat.le_of_not_lt data)
      rw [← Nat.add_assoc]
      exact Buffer.clear_covered (by rw [Buffer.size_copy]; omega) (by omega)
  · rw [if_neg covered]
    rw [Section.covers_iff] at covered
    rw [Buffer.clear_frame (by omega)]
    exact Buffer.copy_frame (by omega)

theorem loadSection_ok (loaded : loadSection file part image = .ok filled) :
    part.Fits file image.size ∧ filled.size = image.size ∧
      ∀ place, filled[place]? =
        if part.covers place then some (part.byteAt file place) else image[place]? := by
  unfold loadSection at loaded
  cases target : Extent.within? image.size part.virtualAddress.toNat part.virtualSize.toNat with
  | none =>
      rw [target] at loaded
      cases loaded
  | some run =>
      rw [target] at loaded
      obtain ⟨rfl, room⟩ := Extent.within?_sound target
      dsimp only at loaded
      have bytes := @section_bytes file image part room
      by_cases empty : part.copySize.toNat = 0
      · rw [if_pos empty] at loaded
        obtain rfl := Except.ok.inj loaded
        refine ⟨⟨room, by omega⟩, Buffer.size_clear _ _ _, ?_⟩
        intro place
        rw [← bytes place, empty]
        rfl
      · rw [if_neg empty] at loaded
        cases source : Extent.within? file.size part.rawOffset.toNat part.copySize.toNat with
        | none =>
            rw [source] at loaded
            cases loaded
        | some run =>
            rw [source] at loaded
            obtain ⟨rfl, inside⟩ := Extent.within?_sound source
            obtain rfl := Except.ok.inj loaded
            exact ⟨⟨room, fun _ => inside⟩, by rw [Buffer.size_clear, Buffer.size_copy], bytes⟩

/-- Putting sections into an image, one after the other, puts their overlay there. -/
theorem loadSectionsFrom_ok {index count : Nat}
    (loaded : (loadSectionsFrom file layout index count image).result = .ok filled) :
    ∃ parts, (List.range' index count).mapM (sectionAt file layout) = .ok parts ∧
      (∀ part ∈ parts, part.Fits file image.size) ∧ filled.size = image.size ∧
      ∀ below, HasBytes image below → HasBytes filled (overlay file parts below) := by
  induction count generalizing index image with
  | zero =>
      obtain rfl := Except.ok.inj loaded
      exact ⟨[], rfl, List.forall_mem_nil _, rfl, fun below shows => shows⟩
  | succ count ih =>
      unfold loadSectionsFrom at loaded
      cases read : sectionAt file layout index with
      | error fault =>
          rw [read] at loaded
          cases loaded
      | ok part =>
          rw [read] at loaded
          dsimp only at loaded
          cases put : loadSection file part image with
          | error fault =>
              rw [put] at loaded
              cases loaded
          | ok first =>
              rw [put] at loaded
              obtain ⟨fits, size, bytes⟩ := loadSection_ok put
              obtain ⟨parts, table, others, length, rest⟩ := ih loaded
              rw [size] at others length
              refine ⟨part :: parts, ?_, List.forall_mem_cons.mpr ⟨fits, others⟩, length, ?_⟩
              · rw [List.range'_succ, List.mapM_cons, read, table]
                rfl
              · intro below shows place inside
                rw [overlay_cons]
                refine rest _ ?_ place inside
                intro place inside
                dsimp only
                rw [bytes place]
                split
                · rfl
                · exact shows place (size ▸ inside)

/-- A section that fits is put into the image. -/
theorem loadSection_of_fits (fits : part.Fits file image.size) :
    ∃ filled, loadSection file part image = .ok filled := by
  unfold loadSection
  rw [Extent.within?_of_reach (words_reach _ _) fits.image]
  dsimp only
  split
  · exact ⟨_, rfl⟩
  · next filled =>
      rw [Extent.within?_of_reach (words_reach _ _) (fits.file (Nat.pos_of_ne_zero filled))]
      exact ⟨_, rfl⟩

theorem loadSectionsFrom_of_fits {index count : Nat}
    (table : (List.range' index count).mapM (sectionAt file layout) = .ok parts)
    (fits : ∀ part ∈ parts, part.Fits file image.size) :
    ∃ filled, (loadSectionsFrom file layout index count image).result = .ok filled := by
  induction count generalizing index image parts with
  | zero => exact ⟨image, rfl⟩
  | succ count ih =>
      rw [List.range'_succ, List.mapM_cons] at table
      unfold loadSectionsFrom
      cases read : sectionAt file layout index with
      | error fault =>
          rw [read] at table
          cases table
      | ok part =>
          cases later : (List.range' (index + 1) count).mapM (sectionAt file layout) with
          | error fault =>
              rw [read, later] at table
              cases table
          | ok others =>
              rw [read, later] at table
              obtain rfl : part :: others = parts := Except.ok.inj table
              obtain ⟨own, rest⟩ := List.forall_mem_cons.mp fits
              obtain ⟨first, put⟩ := loadSection_of_fits own
              obtain ⟨-, size, -⟩ := loadSection_ok put
              dsimp only
              rw [put]
              rw [← size] at rest
              exact ih later rest

theorem copyHeaders_of_fits (inFile : layout.headersSize.toNat ≤ file.size)
    (inImage : layout.headersSize.toNat ≤ image.size) : ∃ filled, copyHeaders file layout image = .ok filled := by
  have reach : 0 + layout.headersSize.toNat ≤ wordLimit := by
    rw [Nat.zero_add]
    exact layout.headersSize.toNat_lt.le
  unfold copyHeaders
  dsimp only
  rw [Extent.within?_of_reach reach (by rwa [Nat.zero_add]), Extent.within?_of_reach reach (by rwa [Nat.zero_add])]
  exact ⟨_, rfl⟩

theorem copyHeaders_ok (copied : copyHeaders file layout image = .ok filled) :
    layout.headersSize.toNat ≤ file.size ∧ layout.headersSize.toNat ≤ image.size ∧
      filled.size = image.size ∧
      ∀ place, filled[place]? =
        if place < layout.headersSize.toNat then some (file.getD place 0) else image[place]? := by
  unfold copyHeaders at copied
  dsimp only at copied
  cases source : Extent.within? file.size 0 layout.headersSize.toNat with
  | none =>
      rw [source] at copied
      cases copied
  | some run =>
      cases target : Extent.within? image.size 0 layout.headersSize.toNat with
      | none =>
          rw [source, target] at copied
          cases copied
      | some place =>
          rw [source, target] at copied
          obtain ⟨rfl, inFile⟩ := Extent.within?_sound source
          obtain ⟨rfl, inImage⟩ := Extent.within?_sound target
          rw [Nat.zero_add] at inFile inImage
          obtain rfl := Except.ok.inj copied
          refine ⟨inFile, inImage, Buffer.size_copy _ _ _ _ _, ?_⟩
          intro place
          dsimp only
          by_cases header : place < layout.headersSize.toNat
          · rw [if_pos header]
            have covered : (image.copy 0 file 0 layout.headersSize.toNat)[0 + place]? =
                some (file.getD (0 + place) 0) := Buffer.copy_covered (by omega) header
            simpa only [Nat.zero_add] using covered
          · rw [if_neg header]
            exact Buffer.copy_frame (by omega)

private theorem eq_contents (length : filled.size = layout.imageSize.toNat)
    (shows : HasBytes filled (overlay file parts (headerByte file layout))) :
    filled = contents file layout parts := by
  refine Array.ext_getElem? fun place => ?_
  unfold contents
  rw [Array.getElem?_ofFn]
  by_cases inside : place < layout.imageSize.toNat
  · rw [dif_pos inside]
    exact shows place (length ▸ inside)
  · rw [dif_neg inside]
    exact Array.getElem?_eq_none (by omega)

theorem fill_ok {history : History platform} (length : image.size = layout.imageSize.toNat)
    (blank : HasBytes image fun _ => 0)
    (follows : Attempt.Follows (I := platform) (fill file layout image) history (.ok filled)) :
    ∃ parts, sections file layout = .ok parts ∧
      (∀ part ∈ parts, part.Fits file layout.imageSize.toNat) ∧
      layout.headersSize.toNat ≤ file.size ∧ layout.headersSize.toNat ≤ layout.imageSize.toNat ∧
      filled = contents file layout parts := by
  obtain ⟨_, _, ⟨⟩⟩ | ⟨headed, first, second, copying, loading, rfl⟩ :=
    Attempt.follows_bind.mp follows
  obtain ⟨-, copied⟩ := Attempt.follows_ofChecked.mp copying
  rw [Attempt.follows_report_bind] at loading
  obtain ⟨-, loaded⟩ := Attempt.follows_ofChecked.mp loading
  obtain ⟨inFile, inImage, headedSize, headers⟩ :=
    copyHeaders_ok (Fault.simplify_eq_ok_iff.mp copied.symm)
  obtain ⟨parts, table, fits, filledSize, overlaid⟩ :=
    loadSectionsFrom_ok (Fault.simplify_eq_ok_iff.mp loaded.symm)
  rw [headedSize, length] at fits filledSize
  rw [length] at inImage
  refine ⟨parts, table, fits, inFile, inImage, eq_contents filledSize (overlaid _ ?_)⟩
  intro place inside
  rw [headers place]
  unfold headerByte
  split
  · rfl
  · exact blank place (headedSize ▸ inside)

end Filling

section Settling

variable {file image bytes : Buffer} {layout : Layout} {history : History platform} {loaded : Loaded}

theorem settle_ok {base entry : UInt64}
    (follows : Attempt.Follows (I := platform) (settle layout base image) history
      (.ok (bytes, entry))) :
    ∃ mapped : MappedImage, ∃ applied, mapped.bytes = image ∧ mapped.address = base ∧
      relocate layout mapped = ⟨bytes, .ok applied⟩ ∧ layout.entry.toNat < image.size ∧
      entry.toNat = base.toNat + layout.entry.toNat := by
  unfold settle MappedImage.at? at follows
  by_cases fits : base.toNat + image.size < wordLimit
  · rw [dif_pos fits] at follows
    dsimp only at follows
    rw [Attempt.follows_report_bind] at follows
    obtain ⟨_, _, ⟨⟩⟩ | ⟨applied, first, second, checked, locating, -⟩ :=
      Attempt.follows_bind.mp follows
    obtain ⟨-, relocated⟩ := Attempt.follows_checked.mp checked
    have verdict := Fault.simplify_eq_ok_iff.mp relocated.symm
    rw [size_relocate] at locating
    unfold Position.within? at locating
    by_cases inside : layout.entry.toNat < image.size
    · rw [if_pos inside] at locating
      obtain ⟨-, same⟩ := Attempt.follows_pure.mp locating
      obtain ⟨rfl, rfl⟩ := Prod.mk.inj (Except.ok.inj same)
      refine ⟨⟨image, base, fits⟩, applied, rfl, rfl, ?_, inside, ?_⟩
      · rw [← verdict]
      · exact MappedImage.absolute_toNat ⟨image, base, fits⟩ (Nat.le_of_lt inside)
    · rw [if_neg inside] at locating
      cases (Attempt.follows_fail.mp locating).2
  · rw [dif_neg fits] at follows
    cases (Attempt.follows_throw.mp follows).2

theorem load_ok (follows : (load file layout).Follows history (.ok loaded)) :
    ∃ size grant filled, history = [⟨.allocatePool .data size, .ok grant⟩] ∧
      Window.bufferSize layout = .ok size ∧
      Window.choose layout ⟨grant.address, Array.replicate size 0⟩ = .ok loaded.window ∧
      Attempt.Follows (I := platform) (fill file layout loaded.window.bytes) [] (.ok filled) ∧
      Attempt.Follows (I := platform) (settle layout loaded.base filled) []
        (.ok (loaded.bytes, loaded.entry)) := by
  obtain ⟨_, _, ⟨⟩⟩ | ⟨window, first, later, allocated, filling, rfl⟩ :=
    Attempt.follows_bind.mp follows
  cases Window.allocate_follows allocated with
  | chosen sized chosen =>
      obtain ⟨_, filled, ⟨⟩⟩ | ⟨_, _, _, _, _, ⟨⟩, -⟩ := Attempt.follows_onFailure.mp filling
      obtain ⟨rfl, made⟩ := filling_follows filled
      obtain ⟨rfl, filled, fills, settles⟩ := made loaded rfl
      exact ⟨_, _, filled, rfl, sized, chosen, fills, settles⟩

theorem Window.bytes_blank {size : Nat} {address : UInt64} {window : Window}
    (requested : bufferSize layout = .ok size)
    (chosen : choose layout ⟨address, Array.replicate size 0⟩ = .ok window) :
    window.bytes.size = layout.imageSize.toNat ∧ HasBytes window.bytes fun _ => 0 := by
  obtain ⟨buffer, length, room, -⟩ := choose_ok requested chosen
  have sized : window.bytes.size = layout.imageSize.toNat := by
    unfold bytes Buffer.slice
    rw [Array.size_extract, buffer, Array.size_replicate]
    omega
  refine ⟨sized, ?_⟩
  intro place inside
  unfold bytes Buffer.slice at inside ⊢
  rw [Array.getElem?_eq_getElem inside, Array.getElem_extract]
  simp only [buffer, Array.getElem_replicate]

/-- What a loaded image is, in the memory it was granted: where it lies, where it is entered, and every byte of it. -/
structure LaidOut (file : Buffer) (layout : Layout) (size : Nat) (grant : Grant) (loaded : Loaded) :
    Prop where
  aligned : layout.alignment.toNat ∣ loaded.base.toNat
  above : grant.address.toNat ≤ loaded.base.toNat
  below : loaded.base.toNat + layout.imageSize.toNat ≤ grant.address.toNat + size
  size : loaded.size = layout.imageSize
  inside : layout.entry.toNat < layout.imageSize.toNat
  entry : loaded.entry.toNat = loaded.base.toNat + layout.entry.toNat
  headers : layout.headersSize.toNat ≤ file.size ∧ layout.headersSize.toNat ≤ layout.imageSize.toNat
  bytes : ∃ parts mapped applied, sections file layout = .ok parts ∧
    (∀ part ∈ parts, part.Fits file layout.imageSize.toNat) ∧
    mapped.bytes = contents file layout parts ∧ mapped.address = loaded.base ∧
    relocate layout mapped = ⟨loaded.bytes, .ok applied⟩

theorem load_laidOut (follows : (load file layout).Follows history (.ok loaded)) :
    ∃ size grant, history = [⟨.allocatePool .data size, .ok grant⟩] ∧
      LaidOut file layout size grant loaded := by
  obtain ⟨size, grant, filled, rfl, requested, chosen, fills, settles⟩ := load_ok follows
  refine ⟨size, grant, rfl, ?_⟩
  obtain ⟨-, length, room, -⟩ := Window.choose_ok requested chosen
  have base : loaded.base.toNat = grant.address.toNat + loaded.window.offset :=
    Window.base_toNat requested chosen
  obtain ⟨sized, blank⟩ := Window.bytes_blank requested chosen
  obtain ⟨parts, table, fits, inFile, inImage, rfl⟩ := fill_ok sized blank fills
  obtain ⟨mapped, applied, bytes, address, relocated, inside, entry⟩ := settle_ok settles
  have full : (contents file layout parts).size = layout.imageSize.toNat := Array.size_ofFn
  exact {
    aligned := Window.choose_aligned requested chosen
    above := by omega
    below := by omega
    size := by
      unfold Loaded.size
      rw [length, UInt64.ofNat_toNat]
    inside := full ▸ inside
    entry
    headers := ⟨inFile, inImage⟩
    bytes := ⟨parts, mapped, applied, table, fits, bytes, address, relocated⟩ }

end Settling

section Overlapping

open Simulation

def headerOf (size address raw offset : UInt8) : Bytes :=
  List.replicate 8 0 ++ [size, 0, 0, 0, address, 0, 0, 0, raw, 0, 0, 0, offset, 0, 0, 0] ++
    List.replicate 16 0

/-- Two sections of which the second covers the fixups in the first, and puts one of its own there. -/
def overlappingFile : Buffer :=
  ([1, 2, 3, 4, 5, 6, 7, 8] ++ headerOf 20 16 12 88 ++ headerOf 8 24 2 100 ++
    [0, 0, 0, 0, 12, 0, 0, 0, 0, 0x30, 0, 0, 4, 0x30, 9, 9]).toArray

def overlappingLayout : Layout where
  preferredBase := 0
  imageSize := 40
  entry := 16
  headersSize := 8
  sectionCount := 2
  sectionTable := 8
  relocations := ⟨16, 12⟩
  directoryCount := 6
  alignment := 16

end Overlapping

end EfiHandoff.Image
