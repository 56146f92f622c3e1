import EfiHandoff.Bounds
import EfiHandoff.SystemTable.Interface

/-!
# The shim as a trust root

The shim checks signatures and parses headers on the loader's behalf. It hands back pointers into the image;
they are turned back into offsets here, and one that points elsewhere is never followed.
-/

set_option autoImplicit false

namespace EfiHandoff.Shim

open SystemTable

def sizeLimit : Nat := 0x100000000

def verify (shim : UInt64) (image : Buffer) : Act (Except Status Unit) := do
  if image.size < sizeLimit then
    let status ← shimVerify shim image
    return status.toExcept
  else return .error .badBufferSize

inductive ContextFault
  | imageTooLarge
  | failed (status : Status)
  /-- The part of the image called `what` is not where the shim points. -/
  | astray (what : String)
  | alignment (found : UInt32)
deriving DecidableEq, Repr

instance : Fault ContextFault where
  error
    | .imageTooLarge => .contextRejected
    | .failed status =>
        if status = .unsupported then .contextUnsupported
        else if status = .invalidParameter then .contextRejected
        else .contextFailed status
    | .astray what => .invalidHeader what
    | .alignment found => .invalidAlignment found
  journal
    | .failed status => [Origin.systemTable.error s!"ShimLock: Context failed: {status.shown}"]
    | _ => []

def offsetIn (size : Nat) : Option Int → Option Nat
  | some (.ofNat distance) => if distance < size then some distance else none
  | _ => none

def pointed (image : Buffer) (pointer : Option Int) (what : String) : Except ContextFault Nat :=
  match offsetIn image.size pointer with
  | some offset => .ok offset
  | none => .error (.astray what)

def within (image : Buffer) (offset length : Nat) (what : String) : Except ContextFault Unit :=
  match Extent.within? image.size offset length with
  | some _ => .ok ()
  | none => .error (.astray what)

/-- The relocation directory at a pointer; none where the pointer leaves the image. -/
def directory (image : Buffer) (pointer : Option Int) : Except ContextFault Image.Directory :=
  match offsetIn image.size pointer with
  | none => .ok .absent
  | some offset => do
      within image offset 8 "data directory"
      return ⟨UInt32.ofNat (image.word offset 4), UInt32.ofNat (image.word (offset + 4) 4)⟩

/-- How far the section alignment stands behind the signature: 32 bytes into the optional header. -/
def alignmentDistance : Nat := 4 + 20 + 32

def layoutOf (image : Buffer) (context : ShimContext) : Except ContextFault Image.Layout := do
  let sectionTable ← pointed image context.firstSection "section table"
  let relocations ← directory image context.relocations
  let signature ← pointed image context.signature "PE signature"
  let alignmentAt := signature + alignmentDistance
  within image alignmentAt 4 "optional header too small"
  let alignment := UInt32.ofNat (image.word alignmentAt 4)
  if !Image.isPowerOfTwo alignment then throw (.alignment alignment)
  return {
    preferredBase := context.imageAddress
    imageSize := context.imageSize
    entry := context.entry
    headersSize := context.headersSize
    sectionCount := context.sectionCount
    sectionTable := UInt64.ofNat sectionTable
    relocations
    directoryCount := context.directoryCount
    alignment }

def layout (shim : UInt64) (image : Buffer) : Act (Except BootError Image.Layout) := do
  let result ←
    if image.size < sizeLimit then do
      let (status, context) ← shimContext shim image
      pure (if status.isSuccess then layoutOf image context else .error (.failed status))
    else pure (.error .imageTooLarge)
  Program.report (Fault.reported result)
  return Fault.simplify result

end EfiHandoff.Shim
