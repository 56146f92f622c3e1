/-!
# Buffers

The bytes of a file or of a loaded image, little-endian words inside them, and the in-place edits the
loader makes. Every edit keeps the size, so a place that was checked once stays valid.
-/

set_option autoImplicit false

namespace EfiHandoff

/-- Short encoded data, such as a device path or a word. -/
abbrev Bytes := List UInt8

/-- The contents of a file or of a stretch of memory. -/
abbrev Buffer := Array UInt8

/-- One past the largest 64-bit address or size. -/
def wordLimit : Nat := 0x10000000000000000

/-- The sum of two sizes, unless it leaves the 64-bit range. -/
def checkedAdd (left right : Nat) : Option Nat :=
  if left + right < wordLimit then some (left + right) else none

/-- A limit on the size of one request for memory; none refuses nothing. -/
abbrev MemoryLimit := Option Nat

def MemoryLimit.grants (limit : MemoryLimit) (bytes : Nat) : Bool :=
  match limit with
  | none => true
  | some most => bytes ≤ most

namespace Bytes

def littleEndian : Bytes → Nat
  | [] => 0
  | byte :: rest => byte.toNat + 256 * littleEndian rest

/-- The lowest `width` bytes of `value`, lowest byte first. -/
def ofNat : (width value : Nat) → Bytes
  | 0, _ => []
  | width + 1, value => UInt8.ofNat value :: ofNat width (value / 256)

theorem length_ofNat (width value : Nat) : (ofNat width value).length = width := by
  induction width generalizing value with
  | zero => rfl
  | succ width ih => simp [ofNat, ih]

end Bytes

namespace Buffer

/-- The `length` bytes from `start` on; fewer when the buffer ends before. -/
def slice (buffer : Buffer) (start length : Nat) : Buffer :=
  buffer.extract start (start + length)

/-- The little-endian number in the `width` bytes from `start` on, missing bytes counting as zero. -/
def word (buffer : Buffer) (start width : Nat) : Nat :=
  match width with
  | 0 => 0
  | width + 1 => (buffer.getD start 0).toNat + 256 * word buffer (start + 1) width

/-- Writes `bytes` from `start` on; what would fall past the end is dropped. -/
def overwrite (buffer : Buffer) (start : Nat) : Bytes → Buffer
  | [] => buffer
  | byte :: rest => overwrite (buffer.setIfInBounds start byte) (start + 1) rest

/-- Copies `count` bytes of `source`, from `origin` on, to `start`. -/
def copy (buffer : Buffer) (start : Nat) (source : Buffer) (origin : Nat) : (count : Nat) → Buffer
  | 0 => buffer
  | count + 1 =>
      copy (buffer.setIfInBounds start (source.getD origin 0)) (start + 1) source (origin + 1) count

def clear (buffer : Buffer) (start : Nat) : (count : Nat) → Buffer
  | 0 => buffer
  | count + 1 => clear (buffer.setIfInBounds start 0) (start + 1) count

theorem size_overwrite (buffer : Buffer) (start : Nat) (bytes : Bytes) :
    (overwrite buffer start bytes).size = buffer.size := by
  induction bytes generalizing buffer start with
  | nil => rfl
  | cons byte rest ih => simp [overwrite, ih]

theorem size_copy (buffer source : Buffer) (start origin count : Nat) :
    (copy buffer start source origin count).size = buffer.size := by
  induction count generalizing buffer start origin with
  | zero => rfl
  | succ count ih => simp [copy, ih]

theorem size_clear (buffer : Buffer) (start count : Nat) :
    (clear buffer start count).size = buffer.size := by
  induction count generalizing buffer start with
  | zero => rfl
  | succ count ih => simp [clear, ih]

end Buffer

end EfiHandoff
