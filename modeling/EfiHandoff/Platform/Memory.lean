import EfiHandoff.Platform.Interface

/-!
# Owned memory

Pool buffers and page ranges as values that own their contents. Whoever allocates one has to release it; a
refused release is reported and otherwise ignored.
-/

set_option autoImplicit false

namespace EfiHandoff

def pageSize : Nat := 4096

def pagesFor (size : Nat) : Nat := (size + (pageSize - 1)) / pageSize

inductive MemoryFault
  | pool (size : Nat) (status : Status)
  | pages (count : Nat) (status : Status)
  | pagesAtZero
deriving DecidableEq, Repr

instance : Fault MemoryFault where
  error _ := .outOfMemory
  journal
    | .pool size status =>
        [Origin.firmware.error
          s!"Chainload: Pool allocation of {size} bytes failed: {status.shown}"]
    | .pages count status =>
        [Origin.firmware.error
          s!"Chainload: Failed to allocate {count} pages: {status.shown}"]
    | .pagesAtZero => [Origin.firmware.error "Chainload: Page allocation returned address 0"]

structure PoolBuffer where
  address : UInt64
  bytes : Buffer
deriving DecidableEq, Repr

namespace PoolBuffer

open Platform

/-- Allocates `size` bytes, all zero whatever the memory held before. -/
def allocate (kind : MemoryKind) (size : Nat) : Try PoolBuffer := do
  match ← (allocatePool kind size : Act _) with
  | .error status => Attempt.ofChecked (.error (MemoryFault.pool size status))
  | .ok grant => return ⟨grant.address, Array.replicate size 0⟩

def release (buffer : PoolBuffer) : Act Unit := do
  let status ← freePool buffer.address
  if !status.isSuccess then
    let place := Text.hex buffer.address.toNat
    Program.report
      [Origin.firmware.warn s!"Chainload: free_pool({place}) failed: {status.shown}"]

end PoolBuffer

/-- Whole pages of which the first bytes are used. -/
structure PageRange where
  address : UInt64
  pages : Nat
  bytes : Buffer
deriving DecidableEq, Repr

namespace PageRange

open Platform

def releaseAt (address : UInt64) (pages : Nat) : Act Unit := do
  let status ← freePages address pages
  if !status.isSuccess then
    let place := Text.hex address.toNat
    Program.report
      [Origin.firmware.warn s!"Chainload: free_pages({place}, {pages}) failed: {status.shown}"]

def release (range : PageRange) : Act Unit := releaseAt range.address range.pages

/-- Allocates the pages for `size` bytes, none of which is used yet. Pages at address zero are given back and
count as a failure. -/
def reserve (kind : MemoryKind) (size : Nat) : Try (PageRange × Grant) := do
  let pages := pagesFor size
  match ← (allocatePages kind pages : Act _) with
  | .error status => Attempt.ofChecked (.error (MemoryFault.pages pages status))
  | .ok grant =>
      if grant.address = 0 then
        Attempt.ensuring (releaseAt 0 pages) (Attempt.ofChecked (.error MemoryFault.pagesAtZero))
      else return (⟨grant.address, pages, #[]⟩, grant)

def allocate (kind : MemoryKind) (size : Nat) : Try PageRange := do
  let (range, grant) ← reserve kind size
  return { range with bytes := grant.bytes size }

end PageRange

end EfiHandoff
