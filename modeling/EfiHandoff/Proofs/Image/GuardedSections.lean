import EfiHandoff.Image.Section

/-!
# Guarded loading of sections

Headers and sections are put into an image once more, in place, with every slice that is taken or cut checked for
its bounds and every copy for its length. The image is kept on every way out, as it then stands. That none of the
guards ever stops the work is proved, and so it is the loading of sections that this describes.
-/

set_option autoImplicit false

namespace EfiHandoff

namespace Extent

def head? (run : Extent) (length : Nat) : Option Extent :=
  if length ≤ run.length then some ⟨run.offset, length⟩ else none

def tail? (run : Extent) (length : Nat) : Option Extent :=
  if length ≤ run.length then some ⟨run.offset + length, run.length - length⟩ else none

end Extent

namespace Buffer

/-- Copies `source` over a run, which has to be as long as it is. -/
def copyOver? (buffer : Buffer) (run : Extent) (source : Buffer) : Option Buffer :=
  if run.offset + run.length ≤ buffer.size ∧ source.size = run.length then
    some (buffer.overwrite run.offset source.toList)
  else none

def clearOver? (buffer : Buffer) (run : Extent) : Option Buffer :=
  if run.offset + run.length ≤ buffer.size then some (buffer.clear run.offset run.length) else none

end Buffer

namespace Image

inductive SectionGuard
  | reported (fault : SectionFault)
  /-- A run that had been accepted could not be taken from its buffer. -/
  | runLost
  /-- An index lay outside its slice, or slices of different lengths were copied. -/
  | outOfRange
deriving DecidableEq, Repr

/-- Work on an image, which is kept also when the work is stopped. -/
abbrev Guarded := EStateM SectionGuard Buffer

def orStop {α : Type} (guard : SectionGuard) : Option α → Guarded α
  | none => throw guard
  | some value => return value

def guardedHeaders (file : Buffer) (layout : Layout) : Guarded Unit := do
  let image ← get
  let size := layout.headersSize.toNat
  let source ← orStop (.reported (.headers size)) (Extent.within? file.size 0 size)
  let target ← orStop (.reported (.headers size)) (Extent.within? image.size 0 size)
  let bytes ← orStop .runLost (source.of? file)
  let _ ← orStop .runLost (target.of? image)
  set (← orStop .outOfRange (image.copyOver? target bytes))

def Section.ofHeader (header : Buffer) : Section where
  name := (header.slice 0 8).toList
  virtualSize := UInt32.ofNat (header.word 8 4)
  virtualAddress := UInt32.ofNat (header.word 12 4)
  rawSize := UInt32.ofNat (header.word 16 4)
  rawOffset := UInt32.ofNat (header.word 20 4)

def guardedRecord (file : Buffer) (layout : Layout) (index : Nat) : Guarded Section := do
  let place ← orStop (.reported .tableOutsideFile)
    (checkedAdd (index * sectionHeaderSize) layout.sectionTable.toNat)
  let run ← orStop (.reported .tableOutsideFile) (Extent.within? file.size place sectionHeaderSize)
  let header ← orStop .runLost (run.of? file)
  if header.size = sectionHeaderSize then return .ofHeader header else throw .runLost

def guardedData (file : Buffer) (part : Section) (target : Extent) : Guarded Unit := do
  let copied := part.copySize.toNat
  let source ← orStop (.reported (.outsideFile part)) (Extent.within? file.size part.rawOffset.toNat copied)
  let data ← orStop .runLost (source.of? file)
  let head ← orStop .outOfRange (target.head? copied)
  let image ← get
  set (← orStop .outOfRange (image.copyOver? head data))

def guardedTail (target : Extent) (copied : Nat) : Guarded Unit := do
  let tail ← orStop .outOfRange (target.tail? copied)
  let image ← get
  set (← orStop .outOfRange (image.clearOver? tail))

def guardedSection (file : Buffer) (part : Section) : Guarded Unit := do
  let image ← get
  let target ← orStop (.reported (.outsideImage part image.size))
    (Extent.within? image.size part.virtualAddress.toNat part.virtualSize.toNat)
  let _ ← orStop .runLost (target.of? image)
  if part.copySize ≠ 0 then guardedData file part target
  guardedTail target part.copySize.toNat

def guardedSectionsFrom (file : Buffer) (layout : Layout) (index : Nat) : (count : Nat) → Guarded Unit
  | 0 => return ()
  | count + 1 => do
      let part ← guardedRecord file layout index
      guardedSection file part
      guardedSectionsFrom file layout (index + 1) count

def guardedSections (file : Buffer) (layout : Layout) : Guarded Unit :=
  guardedSectionsFrom file layout 0 layout.sectionCount.toNat

end Image

end EfiHandoff
