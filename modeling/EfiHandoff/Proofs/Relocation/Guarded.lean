import EfiHandoff.Proofs.Relocation.Basic

/-!
# A guarded relocation walk

Relocation once more, with every sum and difference checked against the 64-bit range, every access made through
a checked run of the image and allowed to fail, and a budget of blocks. Beside the image it keeps what it read:
the blocks it entered, with their entries. That none of its own faults ever comes about is proved, and so it is
relocation that it describes.
-/

set_option autoImplicit false

namespace EfiHandoff.Image

def checkedSub (left right : Nat) : Option Nat := if right ≤ left then some (left - right) else none

inductive GuardFault
  | reported (fault : RelocationFault)
  | overflow
  /-- An entry of an accepted block could not be read. -/
  | entryLost
  /-- A value could not be read or written back, though its run had been accepted. -/
  | fixupLost
  /-- The table has more blocks than there is room for. -/
  | overBudget
deriving DecidableEq, Repr

def guardedFixup (kind : FixupKind) (delta : UInt64) (target : Nat) (image : MappedImage) :
    Except GuardFault MappedImage :=
  match Extent.within? image.size target kind.width with
  | none => .error (.reported (.targetOutside target))
  | some run =>
      match image.read? kind.width run with
      | none => .error .fixupLost
      | some value =>
          let sum := value.word 0 kind.width + kind.addend delta
          match image.write? run (Bytes.ofNat kind.width sum) with
          | none => .error .fixupLost
          | some patched => .ok patched

def guardedEntry (delta : UInt64) (block page raw : Nat) (image : MappedImage) :
    Except GuardFault (MappedImage × Nat) :=
  match FixupKind.ofCode? (raw / 0x1000) with
  | none => .error (.reported (.unknownKind (raw / 0x1000) block))
  | some .absolute => .ok (image, 0)
  | some kind =>
      match checkedAdd page (raw % 0x1000) with
      | none => .error .overflow
      | some target => (guardedFixup kind delta target image).map fun patched => (patched, 1)

def entryPlace (block index : Nat) : Option Nat :=
  (checkedAdd block blockHeaderSize).bind (checkedAdd · (2 * index))

structure GuardedEntries where
  image : MappedImage
  read : List Nat
  verdict : Except GuardFault Nat

def GuardedEntries.after (walk : GuardedEntries) (raw : Nat) : GuardedEntries :=
  { walk with read := raw :: walk.read }

def guardedEntries (delta : UInt64) (block page : Nat) :
    (index count applied : Nat) → MappedImage → GuardedEntries
  | _, 0, applied, image => ⟨image, [], .ok applied⟩
  | index, count + 1, applied, image =>
      match entryPlace block index with
      | none => ⟨image, [], .error .overflow⟩
      | some place =>
          match (Extent.within? image.size place 2).bind (image.read? 2) with
          | none => ⟨image, [], .error .entryLost⟩
          | some bytes =>
              let raw := bytes.word 0 2
              match guardedEntry delta block page raw image with
              | .error fault => ⟨image, [raw], .error fault⟩
              | .ok (patched, fixups) =>
                  (guardedEntries delta block page (index + 1) count (applied + fixups)
                    patched).after raw

structure GuardedHeader where
  page : Nat
  next : Nat
  count : Nat
deriving DecidableEq, Repr

def guardedHeader (image : MappedImage) (place : Nat) : Except GuardFault GuardedHeader :=
  match (Extent.within? image.size place blockHeaderSize).bind (image.read? blockHeaderSize) with
  | none => .error (.reported (.headerOutside place))
  | some bytes =>
      let page := bytes.word 0 4
      let size := bytes.word 4 4
      if size < blockHeaderSize then .error (.reported (.blockTooSmall place (UInt32.ofNat size)))
      else
        match checkedAdd place size with
        | none => .error .overflow
        | some next =>
            if (Position.upTo? image.size next).isNone then
              .error (.reported (.blockOutside place size))
            else if (Position.within? image.size page).isNone then
              .error (.reported (.pageOutside page))
            else
              match checkedSub size blockHeaderSize with
              | none => .error .overflow
              | some room => .ok ⟨page, next, room / 2⟩

structure EnteredBlock where
  place : Nat
  page : Nat
  entries : List Nat
deriving DecidableEq, Repr

/-- What a guarded walk leaves: the image, the blocks it entered, and how it went. -/
structure GuardedWalk where
  image : MappedImage
  entered : List EnteredBlock
  verdict : Except GuardFault Nat

def GuardedWalk.after (walk : GuardedWalk) (block : EnteredBlock) : GuardedWalk :=
  { walk with entered := block :: walk.entered }

/-- Applies the blocks from `place` up to `last`, looking at no more than `budget` headers. -/
def guardedBlocks (delta : UInt64) (last : Nat) :
    (budget place applied : Nat) → MappedImage → GuardedWalk
  | 0, place, applied, image =>
      if place < last then ⟨image, [], .error .overBudget⟩ else ⟨image, [], .ok applied⟩
  | budget + 1, place, applied, image =>
      if place < last then
        match guardedHeader image place with
        | .error fault => ⟨image, [], .error fault⟩
        | .ok header =>
            let walked := guardedEntries delta place header.page 0 header.count applied image
            let block : EnteredBlock := ⟨place, header.page, walked.read⟩
            match walked.verdict with
            | .error fault => ⟨walked.image, [block], .error fault⟩
            | .ok applied' =>
                (guardedBlocks delta last budget header.next applied' walked.image).after block
      else ⟨image, [], .ok applied⟩

/-- The number of blocks a table has room for: one for each 8 bytes, begun ones included. -/
def Layout.blockBudget (layout : Layout) : Nat := (layout.relocations.size.toNat + 7) / 8

def guardedRelocate (layout : Layout) (image : MappedImage) : GuardedWalk :=
  let start := layout.relocations.start.toNat
  let size := layout.relocations.size.toNat
  if !layout.hasRelocations then ⟨image, [], .ok 0⟩
  else
    match Extent.within? image.size start size with
    | none => ⟨image, [], .error (.reported (.tableOutside start size image.size))⟩
    | some _ =>
        match checkedAdd start size with
        | none => ⟨image, [], .error .overflow⟩
        | some last =>
            guardedBlocks (layout.delta image.address) last layout.blockBudget start 0 image

end EfiHandoff.Image
