import EfiHandoff.Bounds
import EfiHandoff.Fault

/-!
# Universal binaries

One file may hold the same program for several processors: a magic number, a count, a table of slices and the
slices. The first table entry for the wanted processor decides; later entries do not matter.
-/

set_option autoImplicit false

namespace EfiHandoff.Image

def containerMagic : Nat := 0x0ef1fab9

def cpuX86_64 : UInt32 := 0x01000007

def cpuI386 : UInt32 := 0x00000007

/-- The processor type this loader runs on. -/
def hostCpu : UInt32 := cpuX86_64

def containerHeaderSize : Nat := 8

def sliceEntrySize : Nat := 20

/-- Why no slice can be taken from a universal binary. -/
inductive ContainerFault
  /-- Entry `index` of the table does not lie in the file. -/
  | tableTruncated (index : Nat)
  /-- The slice does not lie in the file of `file` bytes. -/
  | sliceOutside (offset size file : Nat)
  | noSlice (cpu : UInt32)
deriving DecidableEq, Repr

instance : Fault ContainerFault where
  error
    | .tableTruncated _ | .sliceOutside _ _ _ => .endOfFile
    | .noSlice _ => .noMatchingSlice
  journal
    | .tableTruncated index =>
        [Origin.container.error
          s!"PE: Universal binary slice table truncated at entry {index}"]
    | .sliceOutside offset size file =>
        let place := s!"{Text.hex offset} (+{Text.hex size})"
        [Origin.container.error s!"PE: Slice at {place} past end of {file}-byte file"]
    | .noSlice cpu =>
        [Origin.container.error s!"PE: No slice for CPU type {Text.hex cpu.toNat}"]

structure Slice where
  index : Nat
  offset : Nat
  size : Nat
deriving DecidableEq, Repr

def findSlice (file : Buffer) (cpu : UInt32) (index : Nat) :
    (count : Nat) → Except ContainerFault Slice
  | 0 => .error (.noSlice cpu)
  | count + 1 =>
      let entry := containerHeaderSize + index * sliceEntrySize
      match Extent.within? file.size entry sliceEntrySize with
      | none => .error (.tableTruncated index)
      | some _ =>
          if file.word entry 4 = cpu.toNat then
            let offset := file.word (entry + 8) 4
            let size := file.word (entry + 12) 4
            match Extent.within? file.size offset size with
            | none => .error (.sliceOutside offset size file.size)
            | some _ => .ok ⟨index, offset, size⟩
          else findSlice file cpu (index + 1) count

def isContainer (file : Buffer) : Bool :=
  containerHeaderSize ≤ file.size && file.word 0 4 == containerMagic

/-- The slice for the wanted processor; none when the file is no universal binary and is used as it is. -/
def selectSlice (file : Buffer) (cpu : UInt32) : Except ContainerFault (Option Slice) :=
  if isContainer file then (findSlice file cpu 0 (file.word 4 4)).map some else .ok none

def selectSliceJournal (file : Buffer) (result : Except ContainerFault (Option Slice)) : Journal :=
  if !isContainer file then []
  else
    Origin.container.debug s!"PE: Universal binary with {file.word 4 4} slices" ::
      match result with
      | .error fault => Fault.journal fault
      | .ok none => []
      | .ok (some slice) =>
          [Origin.container.debug
            s!"PE: Using slice {slice.index} at {Text.hex slice.offset} ({slice.size} bytes)"]

end EfiHandoff.Image
