import EfiHandoff.Platform.Interface

/-!
# The system table

The raw calls of an EFI environment: boot services, runtime services, the file protocol, the shim's protocol, and
reads and writes of memory that the firmware shares with the loader. Pointers are addresses and zero is null;
where a buffer is handed over, its contents are.
-/

set_option autoImplicit false

namespace EfiHandoff

structure Guid where
  first : UInt32
  second : UInt16
  third : UInt16
  rest : Bytes
deriving DecidableEq, Repr

namespace Guid

def encode (guid : Guid) : Bytes :=
  Bytes.ofNat 4 guid.first.toNat ++ Bytes.ofNat 2 guid.second.toNat ++
    Bytes.ofNat 2 guid.third.toNat ++ guid.rest

def globalVariable : Guid :=
  ⟨0x8be4df61, 0x93ca, 0x11d2, [0xaa, 0x0d, 0x00, 0xe0, 0x98, 0x03, 0x2b, 0x8c]⟩

def shimLock : Guid :=
  ⟨0x605dab50, 0xe046, 0x4300, [0xab, 0xb6, 0x3d, 0xd8, 0x10, 0xdd, 0x8b, 0x23]⟩

def loadedImage : Guid :=
  ⟨0x5b1b31a1, 0x9562, 0x11d2, [0x8e, 0x3f, 0x00, 0xa0, 0xc9, 0x69, 0x72, 0x3b]⟩

def simpleFileSystem : Guid :=
  ⟨0x964e5b22, 0x6459, 0x11d2, [0x8e, 0x39, 0x00, 0xa0, 0xc9, 0x69, 0x72, 0x3b]⟩

def devicePath : Guid :=
  ⟨0x09576e91, 0x6d3f, 0x11d2, [0x8e, 0x39, 0x00, 0xa0, 0xc9, 0x69, 0x72, 0x3b]⟩

end Guid

structure Found where
  status : Status
  address : UInt64
deriving DecidableEq, Repr

namespace Found

def address? (found : Found) : Option UInt64 :=
  if found.status.isSuccess && found.address != 0 then some found.address else none

end Found

structure VariableReply where
  status : Status
  size : Nat
  value : Bytes
deriving DecidableEq, Repr

structure StartReply where
  status : Status
  exitData : UInt64
  exitSize : Nat
deriving DecidableEq, Repr

/-- What the shim says about the headers of an image. Pointers are distances from the first byte of the
image, and may point anywhere. -/
structure ShimContext where
  imageAddress : UInt64
  imageSize : UInt64
  entry : UInt64
  headersSize : UInt64
  sectionCount : UInt16
  firstSection : Option Int
  relocations : Option Int
  directoryCount : UInt64
  signature : Option Int
deriving DecidableEq, Repr

inductive FieldWrite
  | base (value : UInt64)
  | size (value : UInt64)
  | options (value : Option (List UInt16))
  | optionsSize (value : UInt32)
  | filePath (value : Option Bytes)
  | device (value : Handle)
deriving DecidableEq, Repr

namespace FieldWrite

def apply (record : ImageRecord) : FieldWrite → ImageRecord
  | .base value => { record with base := value }
  | .size value => { record with size := value }
  | .options value => { record with options := value }
  | .optionsSize value => { record with optionsSize := value }
  | .filePath value => { record with filePath := value }
  | .device value => { record with device := value }

end FieldWrite

namespace SystemTable

inductive Call
  | locateProtocol (protocol : Guid)
  | handleProtocol (handle : Handle) (protocol : Guid)
  | getVariable (name : List UInt16) (vendor : Guid) (size : Nat)
  | allocatePool (kind : UInt32) (size : Nat)
  | freePool (address : UInt64)
  | allocatePages (strategy kind : UInt32) (pages : Nat)
  | freePages (address : UInt64) (pages : Nat)
  | loadImage (bootPolicy : Bool) (parent : Handle) (path : Bytes) (image : Buffer)
  | startImage (image : Handle)
  | unloadImage (image : Handle)
  | callEntry (entry : UInt64) (handle : Handle) (table : UInt64) (image : Buffer)
  | openVolume (fileSystem : UInt64)
  | openFile (directory : UInt64) (name : List UInt16) (mode attributes : UInt64)
  | closeFile (file : UInt64)
  | setPosition (file position : UInt64)
  | getPosition (file : UInt64)
  | readFile (file : UInt64) (wanted : Nat)
  | shimVerify (shim : UInt64) (image : Buffer)
  | shimContext (shim : UInt64) (image : Buffer)
  | fetchRecord (address : UInt64)
  | storeField (address : UInt64) (field : FieldWrite)
  | memory (address : UInt64)

def Reply : Call → Type
  | .locateProtocol _ => Found
  | .handleProtocol _ _ => Found
  | .getVariable _ _ _ => VariableReply
  | .allocatePool _ _ => Status × Grant
  | .freePool _ => Status
  | .allocatePages _ _ _ => Status × Grant
  | .freePages _ _ => Status
  | .loadImage _ _ _ _ => Status × Handle
  | .startImage _ => StartReply
  | .unloadImage _ => Status
  | .callEntry _ _ _ _ => Status
  | .openVolume _ => Found
  | .openFile _ _ _ _ => Found
  | .closeFile _ => Unit
  | .setPosition _ _ => Status
  | .getPosition _ => Status × UInt64
  | .readFile _ _ => Status × Buffer
  | .shimVerify _ _ => Status
  | .shimContext _ _ => Status × ShimContext
  | .fetchRecord _ => ImageRecord
  | .storeField _ _ => Unit
  | .memory _ => Nat → UInt8

end SystemTable

def systemTable : Interface := ⟨SystemTable.Call, SystemTable.Reply⟩

namespace SystemTable

abbrev Act (α : Type) := Program systemTable α

def locateProtocol (protocol : Guid) : Act Found :=
  Program.call (I := systemTable) (.locateProtocol protocol)

def handleProtocol (handle : Handle) (protocol : Guid) : Act Found :=
  Program.call (I := systemTable) (.handleProtocol handle protocol)

def getVariable (name : List UInt16) (vendor : Guid) (size : Nat) : Act VariableReply :=
  Program.call (I := systemTable) (.getVariable name vendor size)

def allocatePool (kind : UInt32) (size : Nat) : Act (Status × Grant) :=
  Program.call (I := systemTable) (.allocatePool kind size)

def freePool (address : UInt64) : Act Status :=
  Program.call (I := systemTable) (.freePool address)

def allocatePages (strategy kind : UInt32) (pages : Nat) : Act (Status × Grant) :=
  Program.call (I := systemTable) (.allocatePages strategy kind pages)

def freePages (address : UInt64) (pages : Nat) : Act Status :=
  Program.call (I := systemTable) (.freePages address pages)

def loadImage (bootPolicy : Bool) (parent : Handle) (path : Bytes) (image : Buffer) :
    Act (Status × Handle) :=
  Program.call (I := systemTable) (.loadImage bootPolicy parent path image)

def startImage (image : Handle) : Act StartReply :=
  Program.call (I := systemTable) (.startImage image)

def unloadImage (image : Handle) : Act Status :=
  Program.call (I := systemTable) (.unloadImage image)

def callEntry (entry : UInt64) (handle : Handle) (table : UInt64) (image : Buffer) : Act Status :=
  Program.call (I := systemTable) (.callEntry entry handle table image)

def openVolume (fileSystem : UInt64) : Act Found :=
  Program.call (I := systemTable) (.openVolume fileSystem)

def openFile (directory : UInt64) (name : List UInt16) (mode attributes : UInt64) : Act Found :=
  Program.call (I := systemTable) (.openFile directory name mode attributes)

def closeFile (file : UInt64) : Act Unit :=
  Program.call (I := systemTable) (.closeFile file)

def setPosition (file position : UInt64) : Act Status :=
  Program.call (I := systemTable) (.setPosition file position)

def getPosition (file : UInt64) : Act (Status × UInt64) :=
  Program.call (I := systemTable) (.getPosition file)

def readFile (file : UInt64) (wanted : Nat) : Act (Status × Buffer) :=
  Program.call (I := systemTable) (.readFile file wanted)

def shimVerify (shim : UInt64) (image : Buffer) : Act Status :=
  Program.call (I := systemTable) (.shimVerify shim image)

def shimContext (shim : UInt64) (image : Buffer) : Act (Status × ShimContext) :=
  Program.call (I := systemTable) (.shimContext shim image)

def fetchRecord (address : UInt64) : Act ImageRecord :=
  Program.call (I := systemTable) (.fetchRecord address)

def storeField (address : UInt64) (field : FieldWrite) : Act Unit :=
  Program.call (I := systemTable) (.storeField address field)

def memory (address : UInt64) : Act (Nat → UInt8) :=
  Program.call (I := systemTable) (.memory address)

end SystemTable

end EfiHandoff
