import EfiHandoff.SystemTable.Shim
import EfiHandoff.SystemTable.Volume
import EfiHandoff.Text.Utf16

/-!
# The system table as a platform

Every question the loader asks of its platform is answered by calls of the system table. The record of the
running loader is found through its own image handle each time it is needed.
-/

set_option autoImplicit false

namespace EfiHandoff

open SystemTable

/-- What the loader knows of its environment: its own image, the system table, and the shim if it is there. -/
structure Services where
  image : Handle
  table : UInt64
  shim : Option UInt64
deriving DecidableEq, Repr

namespace Services

/-- Looks for the shim and keeps what the loader was started with. -/
def discover (image : Handle) (table : UInt64) : Act Services := do
  let found ← locateProtocol .shimLock
  match found.address? with
  | some shim => do
      Program.report [Origin.systemTable.info "EFI: Shim lock protocol found"]
      return ⟨image, table, some shim⟩
  | none => return ⟨image, table, none⟩

def recordOf (image : Handle) : Act (Option UInt64) :=
  return (← handleProtocol image .loadedImage).address?

def readFlag (name : String) : Act (Option UInt8) := do
  let reply ← getVariable (Utf16.encode name.toList ++ [0]) .globalVariable 1
  return if reply.status.isSuccess && reply.size == 1 then some (reply.value.headD 0) else none

def secureBootMode : Act SecureBootMode := do
  let secureBoot ← readFlag "SecureBoot"
  let setupMode ← readFlag "SetupMode"
  let mode := SecureBootMode.ofVariables secureBoot setupMode
  Program.report [Origin.systemTable.debug s!"EFI: Secure boot mode {mode.name}"]
  return mode

def bootVolume (services : Services) : Act (Option Volume) := do
  match ← recordOf services.image with
  | none => return none
  | some record => do
      let device := (← fetchRecord record).device
      if device = 0 then
        Program.report [Origin.systemTable.warn "EFI: Loader has no device handle"]
        return none
      else
        let found ← handleProtocol device .simpleFileSystem
        return found.address?.map fun fileSystem => ⟨device, fileSystem⟩

/-- Allocates pool memory; a null buffer counts as a failure. -/
def allocatePool (kind : MemoryKind) (size : Nat) : Act (Except Status Grant) := do
  let (status, grant) ← SystemTable.allocatePool kind.number size
  if status.isSuccess then
    return if grant.address = 0 then .error .outOfResources else .ok grant
  else return .error status

/-- The way of allocating pages that leaves the place to the firmware. -/
def anyPages : UInt32 := 0

def allocatePages (kind : MemoryKind) (pages : Nat) : Act (Except Status Grant) := do
  let (status, grant) ← SystemTable.allocatePages anyPages kind.number pages
  return status.toExcept.map fun _ => grant

def loadImage (services : Services) (path : Bytes) (image : Buffer) :
    Act (Except Status Handle) := do
  let (status, handle) ← SystemTable.loadImage false services.image path image
  return status.toExcept.map fun _ => handle

def configureImage (image device : Handle) (options : Option (List UInt16)) :
    Act (Except Status Unit) := do
  match ← recordOf image with
  | none => return .error .notFound
  | some record => do
      storeField record (.device device)
      storeField record (.options options)
      storeField record (.optionsSize (UInt32.ofNat (2 * (options.getD []).length)))
      return .ok ()

def unitsAt (memory : Nat → UInt8) (count : Nat) : List UInt16 :=
  Utf16.untilNul (Utf16.ofBytes ((List.range (2 * count)).map memory))

/-- Starts an image, copies its exit data and frees them. -/
def startImage (image : Handle) : Act ImageExit := do
  let reply ← SystemTable.startImage image
  if reply.exitData = 0 then return ⟨reply.status, none⟩
  else
    let data := unitsAt (← memory reply.exitData) (reply.exitSize / 2)
    let _ ← freePool reply.exitData
    return ⟨reply.status, some data⟩

def snapshot (services : Services) : Act (Option ImageRecord) := do
  match ← recordOf services.image with
  | none => return none
  | some record => return some (← fetchRecord record)

def fieldWrites (record : ImageRecord) : List FieldWrite :=
  [.base record.base, .size record.size, .options record.options,
    .optionsSize record.optionsSize, .filePath record.filePath, .device record.device]

def storeFields (address : UInt64) : List FieldWrite → Act Unit
  | [] => return ()
  | field :: rest => do
      storeField address field
      storeFields address rest

def install (services : Services) (record : ImageRecord) : Act Unit := do
  match ← recordOf services.image with
  | none => return ()
  | some address => storeFields address (fieldWrites record)

def verify (services : Services) (image : Buffer) : Act (Except Status Unit) :=
  match services.shim with
  | some shim => Shim.verify shim image
  | none => return .error .unsupported

def layoutOf (services : Services) (image : Buffer) : Act (Except BootError Image.Layout) :=
  match services.shim with
  | some shim => Shim.layout shim image
  | none => return .error .contextUnsupported

def openFile (volume : Option Volume) (path : List Char) : Act (Except FileError OpenFile) :=
  match volume with
  | some volume => volume.openPath path
  | none => return .error .notFound

def rootDevice (volume : Option Volume) : Act (Option RootDevice) :=
  match volume with
  | some volume => volume.rootDevice
  | none => return none

def answer (services : Services) (volume : Option Volume) (question : Platform.Call) :
    Act (Platform.Reply question) :=
  match question with
  | .allocatePool kind size => allocatePool kind size
  | .freePool address => freePool address
  | .allocatePages kind pages => allocatePages kind pages
  | .freePages address pages => freePages address pages
  | .loadImage path image => services.loadImage path image
  | .configureImage image device options => configureImage image device options
  | .startImage image => startImage image
  | .unloadImage image => unloadImage image
  | .callEntry entry image => callEntry entry services.image services.table image
  | .snapshot => services.snapshot
  | .install record => services.install record
  | .restore record => services.install record
  | .secureBootMode => secureBootMode
  | .trustRoot => return services.shim.map fun _ => .own
  | .verify image => services.verify image
  | .layoutOf image => services.layoutOf image
  | .openFile path => openFile volume path
  | .rootDevice => rootDevice volume
  | .readFile file length => Volume.readExactly file.handle length
  | .closeFile file => closeFile file.handle

def perform {α : Type} (services : Services) (volume : Option Volume)
    (program : Program platform α) : Act α :=
  program.interpret (answer services volume)

end Services

end EfiHandoff
