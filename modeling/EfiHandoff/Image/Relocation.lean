import EfiHandoff.Bounds
import EfiHandoff.Fault
import EfiHandoff.Image.Layout

/-!
# Base relocation

A table in the loaded image lists the places that hold addresses. When the image does not lie where it was
linked for, the distance is added at each of them. The table, each block, each page and each place are checked
against the image first, and the first fault ends the work with what was patched so far in place. The table lies
in the image it patches, so a fixup may change entries that are read later.
-/

set_option autoImplicit false

namespace EfiHandoff.Image

inductive FixupKind
  | absolute
  /-- The high half of a 32-bit address, in 16 bits. -/
  | high
  /-- The low half of a 32-bit address, in 16 bits. -/
  | low
  | highLow
  | dir64
deriving DecidableEq, Repr

namespace FixupKind

def name : FixupKind → String
  | .absolute => "Absolute"
  | .high => "High"
  | .low => "Low"
  | .highLow => "HighLow"
  | .dir64 => "Dir64"

def code : FixupKind → Nat
  | .absolute => 0
  | .high => 1
  | .low => 2
  | .highLow => 3
  | .dir64 => 10

def ofCode? : Nat → Option FixupKind
  | 0 => some .absolute
  | 1 => some .high
  | 2 => some .low
  | 3 => some .highLow
  | 10 => some .dir64
  | _ => none

def width : FixupKind → Nat
  | .absolute => 0
  | .high | .low => 2
  | .highLow => 4
  | .dir64 => 8

/-- What is added to the value for a distance of `delta`, of which only the bits that fit the width count. -/
def addend (kind : FixupKind) (delta : UInt64) : Nat :=
  match kind with
  | .high => delta.toNat / 0x10000
  | _ => delta.toNat

def patch (kind : FixupKind) (delta : UInt64) (image : Buffer) (target : Nat) : Buffer :=
  image.overwrite target
    (Bytes.ofNat kind.width (image.word target kind.width + kind.addend delta))

end FixupKind

def blockHeaderSize : Nat := 8

/-- Why relocation stops. Numbers that name a place are relative to the image. -/
inductive RelocationFault
  /-- The table does not lie in the image of `image` bytes. -/
  | tableOutside (start size image : Nat)
  | headerOutside (block : Nat)
  | blockTooSmall (block : Nat) (size : UInt32)
  | blockOutside (block size : Nat)
  | pageOutside (page : Nat)
  | entryOutside
  | unknownKind (kind block : Nat)
  | targetOutside (target : Nat)
deriving DecidableEq, Repr

instance : Fault RelocationFault where
  error
    | .tableOutside _ _ _ | .headerOutside _ | .blockOutside _ _ | .entryOutside
    | .targetOutside _ => .relocationOutOfRange
    | .blockTooSmall _ size => .relocationBlockTooSmall size
    | .pageOutside _ => .relocationPageOutOfRange
    | .unknownKind kind _ => .unknownFixup (UInt8.ofNat kind)
  journal
    | .tableOutside start size image =>
        let place := s!"{Text.hex start} (+{Text.hex size})"
        [Origin.relocation.error
          s!"PE: Relocation directory {place} outside image of {Text.hex image} bytes"]
    | .headerOutside block =>
        [Origin.relocation.error
          s!"PE: Relocation block header at {Text.hex block} outside image"]
    | .blockTooSmall block size =>
        [Origin.relocation.error s!"PE: Relocation block at {Text.hex block} has size {size}"]
    | .blockOutside block size =>
        [Origin.relocation.error
          s!"PE: Relocation block at {Text.hex block} (+{Text.hex size}) overflows image"]
    | .pageOutside page =>
        [Origin.relocation.error s!"PE: Relocation page {Text.hex page} outside image"]
    | .entryOutside => []
    | .unknownKind kind block =>
        [Origin.relocation.error
          s!"PE: Unknown relocation type {kind} in block at {Text.hex block}"]
    | .targetOutside target =>
        [Origin.relocation.error s!"PE: Fixup at {Text.hex target} outside image"]

/-- An image after some patching, and how the patching went: how many fixups were applied, or why it
stopped. -/
structure Patched where
  image : Buffer
  verdict : Except RelocationFault Nat

/-- Applies the `count` entries that start at `place`, for a block at `block` with its page at `page`. Of an
entry the upper 4 bits are the kind and the lower 12 the distance of the target from the page. -/
def applyEntries (delta : UInt64) (block page : Nat) :
    (place count applied : Nat) → Buffer → Patched
  | _, 0, applied, image => ⟨image, .ok applied⟩
  | place, count + 1, applied, image =>
      match Extent.within? image.size place 2 with
      | none => ⟨image, .error .entryOutside⟩
      | some _ =>
          let raw := image.word place 2
          match FixupKind.ofCode? (raw / 0x1000) with
          | none => ⟨image, .error (.unknownKind (raw / 0x1000) block)⟩
          | some .absolute => applyEntries delta block page (place + 2) count applied image
          | some kind =>
              let target := page + raw % 0x1000
              match Extent.within? image.size target kind.width with
              | none => ⟨image, .error (.targetOutside target)⟩
              | some _ =>
                  applyEntries delta block page (place + 2) count (applied + 1)
                    (kind.patch delta image target)

/-- A relocation block whose header, length and page were checked. -/
structure Block where
  size : Nat
  page : Nat
  minimal : blockHeaderSize ≤ size

def blockAt (image : Buffer) (place : Nat) : Except RelocationFault Block :=
  match Extent.within? image.size place blockHeaderSize with
  | none => .error (.headerOutside place)
  | some _ =>
      let page := image.word place 4
      let size := image.word (place + 4) 4
      if minimal : blockHeaderSize ≤ size then
        if (Position.upTo? image.size (place + size)).isNone then .error (.blockOutside place size)
        else if (Position.within? image.size page).isNone then .error (.pageOutside page)
        else .ok ⟨size, page, minimal⟩
      else .error (.blockTooSmall place (UInt32.ofNat size))

/-- Applies the blocks from `place` up to `last`, where the table ends. A block may reach past the end. -/
def applyBlocks (delta : UInt64) (last place applied : Nat) (image : Buffer) : Patched :=
  if place < last then
    match blockAt image place with
    | .error fault => ⟨image, .error fault⟩
    | .ok block =>
        let patched := applyEntries delta place block.page (place + blockHeaderSize)
          ((block.size - blockHeaderSize) / 2) applied image
        match patched.verdict with
        | .error _ => patched
        | .ok applied' => applyBlocks delta last (place + block.size) applied' patched.image
  else ⟨image, .ok applied⟩
termination_by last - place
decreasing_by have := block.minimal; simp only [blockHeaderSize] at this; omega

def Layout.hasRelocations (layout : Layout) : Bool :=
  relocationIndex < layout.directoryCount.toNat && layout.relocations.size != 0

/-- How far an image at `address` lies from where it was linked for, modulo 2^64. -/
def Layout.delta (layout : Layout) (address : UInt64) : UInt64 := address - layout.preferredBase

def relocate (layout : Layout) (image : MappedImage) : Patched :=
  let start := layout.relocations.start.toNat
  let size := layout.relocations.size.toNat
  if !layout.hasRelocations then ⟨image.bytes, .ok 0⟩
  else if (Extent.within? image.size start size).isNone then
    ⟨image.bytes, .error (.tableOutside start size image.size)⟩
  else applyBlocks (layout.delta image.address) (start + size) start 0 image.bytes

/-- The reports of a relocation. The move itself is reported once the table is known to lie in the image. -/
def relocateJournal (layout : Layout) (address : UInt64) (patched : Patched) : Journal :=
  let source := Text.hex layout.preferredBase.toNat
  let delta := Text.hex (layout.delta address).toNat
  let move := Origin.relocation.debug
    s!"PE: Relocating from {source} to {Text.hex address.toNat} (delta {delta})"
  if !layout.hasRelocations then [Origin.relocation.debug "PE: No relocations to apply"]
  else
    match patched.verdict with
    | .error (.tableOutside start size image) =>
        Fault.journal (RelocationFault.tableOutside start size image)
    | .error fault => move :: Fault.journal fault
    | .ok applied => [move, Origin.relocation.debug s!"PE: Applied {applied} relocations"]

end EfiHandoff.Image
