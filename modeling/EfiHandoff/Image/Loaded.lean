import EfiHandoff.Image.Header
import EfiHandoff.Image.Relocation
import EfiHandoff.Image.Section
import EfiHandoff.Platform.Memory

/-!
# Loaded images

An image is loaded into a pool buffer of its own: a window of the right size at an aligned address is chosen in
the buffer, headers and sections are put there, the addresses in them are moved to where the window lies, and
the entry point is located. On any failure the buffer is given back.
-/

set_option autoImplicit false

namespace EfiHandoff.Image

open Platform

/-- The least multiple of a power of two that is not below an address, if it is a 64-bit address. -/
def alignUp (address alignment : Nat) : Option Nat :=
  (checkedAdd address (alignment - 1)).map fun sum => sum / alignment * alignment

/-- Why no window can be requested for an image. -/
inductive WindowFault
  | emptyImage
  | alignment (found : UInt32)
  | tooLarge
  | noAlignedAddress
deriving DecidableEq, Repr

instance : Fault WindowFault where
  error
    | .emptyImage => .invalidHeader "image size is zero"
    | .alignment found => .invalidAlignment found
    | .tooLarge => .invalidHeader "image too large"
    | .noAlignedAddress => .outOfMemory
  journal
    | .emptyImage => [Origin.section.error "PE: Image size is zero"]
    | .alignment found =>
        [Origin.section.error s!"PE: Invalid section alignment {Text.hex found.toNat}"]
    | .tooLarge | .noAlignedAddress => []

/-- The part of a pool buffer that an image goes into. -/
structure Window where
  buffer : PoolBuffer
  /-- How far the window lies from the start of the buffer. -/
  offset : Nat
  size : Nat
deriving DecidableEq, Repr

namespace Window

def base (window : Window) : UInt64 := window.buffer.address + UInt64.ofNat window.offset

def bytes (window : Window) : Buffer := window.buffer.bytes.slice window.offset window.size

/-- The bytes to request for an image: its size and one alignment, so that an aligned window always fits. -/
def bufferSize (layout : Layout) : Except WindowFault Nat :=
  if layout.imageSize = 0 then .error .emptyImage
  else if !isPowerOfTwo layout.alignment then .error (.alignment layout.alignment)
  else
    match checkedAdd layout.imageSize.toNat layout.alignment.toNat with
    | none => .error .tooLarge
    | some size => .ok size

def choose (layout : Layout) (buffer : PoolBuffer) : Except WindowFault Window :=
  match alignUp buffer.address.toNat layout.alignment.toNat with
  | none => .error .noAlignedAddress
  | some base => .ok ⟨buffer, base - buffer.address.toNat, layout.imageSize.toNat⟩

def summary (window : Window) : Entry :=
  let place := Text.hex window.buffer.address.toNat
  let base := Text.hex window.base.toNat
  Origin.section.debug
    s!"PE: Image buffer {place} ({window.buffer.bytes.size} bytes), aligned base {base}"

def allocate (layout : Layout) : Try Window := do
  let size ← Attempt.ofChecked (bufferSize layout)
  let buffer ← PoolBuffer.allocate .data size
  Attempt.onFailure buffer.release do
    let window ← Attempt.ofChecked (choose layout buffer)
    Attempt.report [window.summary]
    return window

def release (window : Window) : Act Unit := window.buffer.release

end Window

/-- An image that is laid out and relocated, ready to be entered. -/
structure Loaded where
  window : Window
  bytes : Buffer
  entry : UInt64
deriving DecidableEq, Repr

namespace Loaded

def base (loaded : Loaded) : UInt64 := loaded.window.base

def size (loaded : Loaded) : UInt64 := UInt64.ofNat loaded.window.size

def release (loaded : Loaded) : Act Unit := loaded.window.release

end Loaded

def fill (file : Buffer) (layout : Layout) (image : Buffer) : Try Buffer := do
  let withHeaders ← Attempt.ofChecked (copyHeaders file layout image)
  let filled := loadSections file layout withHeaders
  Attempt.report (filled.loaded.map Section.summary)
  Attempt.ofChecked filled.result

/-- Relocates a filled image and locates its entry point. -/
def settle (layout : Layout) (base : UInt64) (image : Buffer) : Try (Buffer × UInt64) := do
  let some mapped := MappedImage.at? image base | throw .outOfMemory
  let patched := relocate layout mapped
  Attempt.report (relocateJournal layout base patched)
  let _ ← (ExceptT.mk (pure (Fault.simplify patched.verdict)) : Try Nat)
  match Position.within? patched.image.size layout.entry.toNat with
  | some place => return (patched.image, mapped.absolute place)
  | none =>
      let entry := Text.hex layout.entry.toNat
      Attempt.fail .entryOutOfRange
        (Origin.image.error s!"PE: Entry point {entry} outside image")

def load (file : Buffer) (layout : Layout) : Try Loaded := do
  let window ← Window.allocate layout
  Attempt.onFailure window.release do
    let filled ← fill file layout window.bytes
    let (bytes, entry) ← settle layout window.base filled
    let base := Text.hex window.base.toNat
    let start := Text.hex entry.toNat
    Attempt.report
      [Origin.image.info s!"PE: Loaded image at {base}, entry point at {start}"]
    return ⟨window, bytes, entry⟩

end EfiHandoff.Image
