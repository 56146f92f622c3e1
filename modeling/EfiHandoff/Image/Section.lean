import EfiHandoff.Bounds
import EfiHandoff.Fault
import EfiHandoff.Image.Layout

/-!
# Filling an image from its file

The headers are copied to the start of the image and each section to its place. A section takes its first bytes
from the file and is zero behind them. The first section that does not fit stops the work, and the sections
before it stay as they were loaded.
-/

set_option autoImplicit false

namespace EfiHandoff.Image

/-- Why headers or sections cannot be put in place. -/
inductive SectionFault
  /-- The headers are longer than the file or the image. -/
  | headers (size : Nat)
  | tableOutsideFile
  /-- The section does not lie in the image of `image` bytes. -/
  | outsideImage (part : Section) (image : Nat)
  | outsideFile (part : Section)
deriving DecidableEq, Repr

instance : Fault SectionFault where
  error
    | .headers _ => .invalidHeader "headers exceed image"
    | .tableOutsideFile => .invalidHeader "section table outside file"
    | .outsideImage _ _ => .sectionOutOfRange
    | .outsideFile _ => .sectionOutOfRange
  journal
    | .headers size =>
        [Origin.section.error s!"PE: Headers ({Text.hex size} bytes) exceed file or image"]
    | .tableOutsideFile => []
    | .outsideImage part image =>
        let start := Text.hex part.virtualAddress.toNat
        let size := Text.hex part.virtualSize.toNat
        [Origin.section.error
          s!"PE: Section {part.shownName} at {start} (+{size}) outside image of {Text.hex image} bytes"]
    | .outsideFile part =>
        let start := Text.hex part.rawOffset.toNat
        let size := Text.hex part.copySize.toNat
        [Origin.section.error
          s!"PE: Section {part.shownName} data at {start} (+{size}) outside file"]

def copyHeaders (file : Buffer) (layout : Layout) (image : Buffer) :
    Except SectionFault Buffer :=
  let size := layout.headersSize.toNat
  match Extent.within? file.size 0 size, Extent.within? image.size 0 size with
  | some source, some target =>
      .ok (image.copy target.offset file source.offset size)
  | _, _ => .error (.headers size)

def sectionAt (file : Buffer) (layout : Layout) (index : Nat) : Except SectionFault Section :=
  match (checkedAdd (index * sectionHeaderSize) layout.sectionTable.toNat).bind
      (Extent.within? file.size · sectionHeaderSize) with
  | none => .error .tableOutsideFile
  | some place =>
      let start := place.offset
      .ok {
        name := (file.slice start 8).toList
        virtualSize := UInt32.ofNat (file.word (start + 8) 4)
        virtualAddress := UInt32.ofNat (file.word (start + 12) 4)
        rawSize := UInt32.ofNat (file.word (start + 16) 4)
        rawOffset := UInt32.ofNat (file.word (start + 20) 4) }

/-- Puts one section into the image: its data, and zeros behind them. -/
def loadSection (file : Buffer) (part : Section) (image : Buffer) : Except SectionFault Buffer :=
  let copied := part.copySize.toNat
  match Extent.within? image.size part.virtualAddress.toNat part.virtualSize.toNat with
  | none => .error (.outsideImage part image.size)
  | some target =>
      let tail := (target.offset + copied, target.length - copied)
      if copied = 0 then .ok (image.clear tail.1 tail.2)
      else
        match Extent.within? file.size part.rawOffset.toNat copied with
        | none => .error (.outsideFile part)
        | some source =>
            .ok ((image.copy target.offset file source.offset copied).clear tail.1 tail.2)

/-- An image with some sections in place, the sections that were loaded, and the fault that stopped the work,
if one did. -/
structure Filled where
  image : Buffer
  loaded : List Section
  fault : Option SectionFault

namespace Filled

def result (filled : Filled) : Except SectionFault Buffer :=
  match filled.fault with
  | none => .ok filled.image
  | some fault => .error fault

end Filled

def loadSectionsFrom (file : Buffer) (layout : Layout) (index : Nat) :
    (count : Nat) → Buffer → Filled
  | 0, image => ⟨image, [], none⟩
  | count + 1, image =>
      match sectionAt file layout index with
      | .error fault => ⟨image, [], some fault⟩
      | .ok part =>
          match loadSection file part image with
          | .error fault => ⟨image, [], some fault⟩
          | .ok filled =>
              let others := loadSectionsFrom file layout (index + 1) count filled
              { others with loaded := part :: others.loaded }

def loadSections (file : Buffer) (layout : Layout) (image : Buffer) : Filled :=
  loadSectionsFrom file layout 0 layout.sectionCount.toNat image

def Section.summary (part : Section) : Entry :=
  let copied := Text.hex part.copySize.toNat
  let size := Text.hex part.virtualSize.toNat
  let start := Text.hex part.virtualAddress.toNat
  Origin.section.debug
    s!"PE: Copied section {part.shownName} ({copied} of {size} bytes at {start})"

def Filled.journal (filled : Filled) : Journal :=
  filled.loaded.map Section.summary ++ Fault.reported filled.result

end EfiHandoff.Image
