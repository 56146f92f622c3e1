import EfiHandoff.Error
import EfiHandoff.Image.Layout
import EfiHandoff.Program

/-!
# The platform

Everything the loader asks of the firmware and of the boot medium, and what it is told. Buffers are handed over
as values: a grant of memory says where it lies and what it holds, and whoever may look at memory later is
given its contents with the question.
-/

set_option autoImplicit false

namespace EfiHandoff

/-- A name the firmware gives to an image, a device or an open file. Zero names nothing. -/
abbrev Handle := UInt64

inductive MemoryKind
  | code
  | data
deriving DecidableEq, Repr

namespace MemoryKind

def number : MemoryKind → UInt32
  | .code => 1
  | .data => 2

end MemoryKind

/-- Memory handed out by the firmware: its address, and the byte it holds at each offset. -/
structure Grant where
  address : UInt64
  contents : Nat → UInt8

def Grant.bytes (grant : Grant) (size : Nat) : Buffer :=
  Array.ofFn fun index : Fin size => grant.contents index

/-- How a started image ended: its status, and its exit data without the NUL. -/
structure ImageExit where
  status : Status
  data : Option (List UInt16)
deriving DecidableEq, Repr

/-- The fields of a loaded-image record that change hands. Where the record holds a pointer, what it points at
stands here. -/
structure ImageRecord where
  base : UInt64
  size : UInt64
  options : Option (List UInt16)
  optionsSize : UInt32
  filePath : Option Bytes
  device : Handle
deriving DecidableEq, Repr

/-- What the secure boot variables say. -/
inductive SecureBootMode
  | unknown
  | disabled
  | setup
  | enabled
deriving DecidableEq, Repr

def SecureBootMode.name : SecureBootMode → String
  | .unknown => "Unknown"
  | .disabled => "Disabled"
  | .setup => "Setup"
  | .enabled => "Enabled"

def SecureBootMode.ofVariables (secureBoot setupMode : Option UInt8) : SecureBootMode :=
  match secureBoot, setupMode with
  | none, _ => .unknown
  | some secure, keysMissing =>
      if secure = 1 ∧ keysMissing = some 0 then .enabled
      else if keysMissing = some 1 then .setup
      else .disabled

/-- Where a trust root takes the layout of an image from. -/
inductive LayoutSource
  /-- From the headers, as `Image.readLayout` reads them. -/
  | headers
  | own
deriving DecidableEq, Repr

structure RootDevice where
  handle : Handle
  devicePath : Option Bytes
deriving DecidableEq, Repr

structure OpenFile where
  handle : Handle
  size : UInt64
deriving DecidableEq, Repr

/-- The bytes a read delivered, and the error if they are not all that was asked for. -/
structure Delivery where
  bytes : Buffer
  failure : Option FileError
deriving DecidableEq, Repr

def Delivery.complete (delivery : Delivery) : Except FileError Buffer :=
  match delivery.failure with
  | none => .ok delivery.bytes
  | some error => .error error

/-- What a buffer of `length` bytes holds after a delivery into it, when each byte was `before`. -/
def Delivery.buffer (delivery : Delivery) (length : Nat) (before : UInt8) : Buffer :=
  delivery.bytes ++ Array.replicate (length - delivery.bytes.size) before

namespace Platform

inductive Call
  | allocatePool (kind : MemoryKind) (size : Nat)
  | freePool (address : UInt64)
  | allocatePages (kind : MemoryKind) (pages : Nat)
  | freePages (address : UInt64) (pages : Nat)
  | loadImage (path : Bytes) (image : Buffer)
  | configureImage (image device : Handle) (options : Option (List UInt16))
  | startImage (image : Handle)
  | unloadImage (image : Handle)
  /-- Calls an entry point, with `image` in memory at the base that the active record names. -/
  | callEntry (entry : UInt64) (image : Buffer)
  | snapshot
  | install (record : ImageRecord)
  | restore (record : ImageRecord)
  | secureBootMode
  /-- Whether a trust root is installed, and where it takes layouts from. -/
  | trustRoot
  | verify (image : Buffer)
  | layoutOf (image : Buffer)
  | openFile (path : List Char)
  | rootDevice
  | readFile (file : OpenFile) (length : Nat)
  | closeFile (file : OpenFile)

def Reply : Call → Type
  | .allocatePool _ _ => Except Status Grant
  | .freePool _ => Status
  | .allocatePages _ _ => Except Status Grant
  | .freePages _ _ => Status
  | .loadImage _ _ => Except Status Handle
  | .configureImage _ _ _ => Except Status Unit
  | .startImage _ => ImageExit
  | .unloadImage _ => Status
  | .callEntry _ _ => Status
  | .snapshot => Option ImageRecord
  | .install _ => Unit
  | .restore _ => Unit
  | .secureBootMode => SecureBootMode
  | .trustRoot => Option LayoutSource
  | .verify _ => Except Status Unit
  | .layoutOf _ => Except BootError Image.Layout
  | .openFile _ => Except FileError OpenFile
  | .rootDevice => Option RootDevice
  | .readFile _ _ => Delivery
  | .closeFile _ => Unit

end Platform

def platform : Interface := ⟨Platform.Call, Platform.Reply⟩

namespace Platform

abbrev Act (α : Type) := Program platform α

abbrev Try (α : Type) := Attempt platform α

def allocatePool (kind : MemoryKind) (size : Nat) : Act (Except Status Grant) :=
  Program.call (I := platform) (.allocatePool kind size)

def freePool (address : UInt64) : Act Status :=
  Program.call (I := platform) (.freePool address)

def allocatePages (kind : MemoryKind) (pages : Nat) : Act (Except Status Grant) :=
  Program.call (I := platform) (.allocatePages kind pages)

def freePages (address : UInt64) (pages : Nat) : Act Status :=
  Program.call (I := platform) (.freePages address pages)

def loadImage (path : Bytes) (image : Buffer) : Act (Except Status Handle) :=
  Program.call (I := platform) (.loadImage path image)

def configureImage (image device : Handle) (options : Option (List UInt16)) :
    Act (Except Status Unit) :=
  Program.call (I := platform) (.configureImage image device options)

def startImage (image : Handle) : Act ImageExit :=
  Program.call (I := platform) (.startImage image)

def unloadImage (image : Handle) : Act Status :=
  Program.call (I := platform) (.unloadImage image)

def callEntry (entry : UInt64) (image : Buffer) : Act Status :=
  Program.call (I := platform) (.callEntry entry image)

def snapshot : Act (Option ImageRecord) := Program.call (I := platform) .snapshot

def install (record : ImageRecord) : Act Unit :=
  Program.call (I := platform) (.install record)

def restore (record : ImageRecord) : Act Unit :=
  Program.call (I := platform) (.restore record)

def secureBootMode : Act SecureBootMode := Program.call (I := platform) .secureBootMode

def trustRoot : Act (Option LayoutSource) := Program.call (I := platform) .trustRoot

def verify (image : Buffer) : Act (Except Status Unit) :=
  Program.call (I := platform) (.verify image)

def layoutOf (image : Buffer) : Act (Except BootError Image.Layout) :=
  Program.call (I := platform) (.layoutOf image)

def openFile (path : List Char) : Act (Except FileError OpenFile) :=
  Program.call (I := platform) (.openFile path)

def rootDevice : Act (Option RootDevice) := Program.call (I := platform) .rootDevice

def readFile (file : OpenFile) (length : Nat) : Act Delivery :=
  Program.call (I := platform) (.readFile file length)

def closeFile (file : OpenFile) : Act Unit :=
  Program.call (I := platform) (.closeFile file)

/-- Reads from a file several times, whether or not a read fails. -/
def readEach (file : OpenFile) : List Nat → Act (List Delivery)
  | [] => return []
  | length :: rest => do
      let delivery ← readFile file length
      return delivery :: (← readEach file rest)

end Platform

end EfiHandoff
