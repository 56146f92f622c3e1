import EfiHandoff.Buffer

/-!
# Checked places in a buffer

Every offset that comes from an executable becomes a `Position` or an `Extent` here before a byte is read
or written through it. Offsets and lengths are 64-bit quantities, and a sum that leaves that range is
refused like one that leaves the buffer.
-/

set_option autoImplicit false

namespace EfiHandoff

/-- An offset that was checked against a buffer size. -/
structure Position where
  offset : Nat
deriving DecidableEq, Repr

/-- A run of bytes that was checked against a buffer size. -/
structure Extent where
  offset : Nat
  length : Nat
deriving DecidableEq, Repr

namespace Position

/-- Accepts an offset before the end of a buffer of `size` bytes. -/
def within? (size offset : Nat) : Option Position :=
  if offset < size then some ⟨offset⟩ else none

/-- Accepts an offset before the end of a buffer of `size` bytes, and the end itself. -/
def upTo? (size offset : Nat) : Option Position :=
  if offset ≤ size then some ⟨offset⟩ else none

end Position

namespace Extent

/-- Accepts the run of `length` bytes at `offset` when its first and its last byte both lie in a buffer of
`size` bytes. An empty run only needs its start to be at most the end. -/
def within? (size offset length : Nat) : Option Extent :=
  if length = 0 then
    (Position.upTo? size offset).map fun start => ⟨start.offset, 0⟩
  else do
    let start ← Position.within? size offset
    let last ← checkedAdd offset (length - 1)
    let _ ← Position.within? size last
    return ⟨start.offset, length⟩

def isEmpty (extent : Extent) : Bool := extent.length == 0

/-- The bytes of the run, unless `buffer` is shorter than the buffer it was checked against. -/
def of? (extent : Extent) (buffer : Buffer) : Option Buffer :=
  if extent.offset + extent.length ≤ buffer.size then
    some (buffer.slice extent.offset extent.length)
  else none

end Extent

def Buffer.read? (buffer : Buffer) (offset length : Nat) : Option Buffer :=
  (Extent.within? buffer.size offset length).bind (·.of? buffer)

/-- Bytes together with the address of the first one. The whole run fits below the top of the address
space, so no address inside it wraps. -/
structure MappedImage where
  bytes : Buffer
  address : UInt64
  fits : address.toNat + bytes.size < wordLimit

namespace MappedImage

/-- Places `bytes` at `address`, unless they would pass the top of the address space. -/
def at? (bytes : Buffer) (address : UInt64) : Option MappedImage :=
  if fits : address.toNat + bytes.size < wordLimit then some ⟨bytes, address, fits⟩ else none

def size (image : MappedImage) : Nat := image.bytes.size

def absolute (image : MappedImage) (place : Position) : UInt64 :=
  image.address + UInt64.ofNat place.offset

/-- Reads a value of `width` bytes; a run of another length is refused. -/
def read? (image : MappedImage) (width : Nat) (extent : Extent) : Option Buffer :=
  if extent.length = width then extent.of? image.bytes else none

/-- Writes `value` over a run of its length; a run of another length is refused. -/
def write? (image : MappedImage) (extent : Extent) (value : Bytes) : Option MappedImage :=
  if extent.length = value.length ∧ extent.offset + extent.length ≤ image.bytes.size then
    some ⟨image.bytes.overwrite extent.offset value, image.address, by
      rw [Buffer.size_overwrite]; exact image.fits⟩
  else none

end MappedImage

end EfiHandoff
