import EfiHandoff.DevicePath.FilePath
import EfiHandoff.SystemTable.Interface

/-!
# The boot volume

The volume the loader was started from, reached through the simple file system protocol: files are opened by a
name with backslashes, measured by seeking to their end, and read in as many pieces as the firmware makes of it.
-/

set_option autoImplicit false

namespace EfiHandoff

open SystemTable

structure Volume where
  device : Handle
  fileSystem : UInt64
deriving DecidableEq, Repr

namespace Volume

def readMode : UInt64 := 1

def endPosition : UInt64 := 0xffffffffffffffff

/-- The name under which a path is opened: without the device, with backslashes, and with NUL at its end. -/
def fileName (path : List Char) : List UInt16 :=
  DevicePath.nameUnits (DevicePath.withoutDevice path)

def failure? (status : Status) : Option FileError :=
  if status.isSuccess then none else some (.device status)

/-- Measures a file that was just opened: seeks to its end, asks for the position and goes back to the start.
When one of the three fails the file is closed again. -/
def measure (file : UInt64) : Act (Except FileError OpenFile) := do
  let steps : ExceptT FileError (Program systemTable) UInt64 := do
    require (← setPosition file endPosition)
    let (status, size) ← (getPosition file : Act _)
    require status
    require (← setPosition file 0)
    return size
  match ← steps.run with
  | .ok size => return .ok ⟨file, size⟩
  | .error error => do
      closeFile file
      return .error error
where
  require (status : Status) : ExceptT FileError (Program systemTable) Unit :=
    match failure? status with
    | none => return ()
    | some error => throw error

/-- Opens a file of the volume for reading. The root directory is closed before anything else happens. -/
def openPath (volume : Volume) (path : List Char) : Act (Except FileError OpenFile) := do
  let root ← openVolume volume.fileSystem
  match failure? root.status with
  | some error => return .error error
  | none => do
      let file ← openFile root.address (fileName path) readMode 0
      closeFile root.address
      if file.status = .notFound then return .error .notFound
      else
        match failure? file.status with
        | some error => return .error error
        | none => measure file.address

/-- Reads until `length` bytes are there, `done` being there already. A success without a byte ends the reading,
so every round brings some. What a read delivers beyond its request is left out of account. -/
def readRest (file : UInt64) (length : Nat) (done : Buffer) : Act Delivery :=
  if _ : done.size < length then do
    let (status, given) ← readFile file (length - done.size)
    match failure? status with
    | some error => return ⟨done, some error⟩
    | none =>
        if _ : 0 < (given.extract 0 (length - done.size)).size then
          readRest file length (done ++ given.extract 0 (length - done.size))
        else return ⟨done, some .short⟩
  else return ⟨done, none⟩
termination_by length - done.size
decreasing_by rw [Array.size_append]; omega

def readExactly (file : UInt64) (length : Nat) : Act Delivery := readRest file length #[]

def maxDevicePath : Nat := 4096

/-- The size of the device path in memory, of which `length` bytes were walked, with its end node. A node that
is shorter than its header or leads past the limit is an error. -/
def pathSizeFrom (memory : Nat → UInt8) (length : Nat) : Except Nat Nat :=
  let node := (memory (length + 2)).toNat + 256 * (memory (length + 3)).toNat
  if node < DevicePath.headerSize ∨ maxDevicePath < length + node then .error node
  else if memory length = DevicePath.endType ∧ memory (length + 1) = DevicePath.endEntireSubtype then
    .ok (length + node)
  else pathSizeFrom memory (length + node)
termination_by maxDevicePath - length
decreasing_by simp only [DevicePath.headerSize] at *; omega

/-- Copies a device path out of memory, or gives the length of the node that is wrong. -/
def copyPath (memory : Nat → UInt8) : Except Nat Bytes :=
  (pathSizeFrom memory 0).map fun size => (List.range size).map memory

def rootDevice (volume : Volume) : Act (Option RootDevice) := do
  let found ← handleProtocol volume.device .devicePath
  match found.address? with
  | none => return some ⟨volume.device, none⟩
  | some address => do
      match copyPath (← memory address) with
      | .ok path => return some ⟨volume.device, some path⟩
      | .error node => do
          Program.report
            [Origin.systemTable.warn s!"EFI: Bad device path node of length {node}"]
          return some ⟨volume.device, none⟩

end Volume

end EfiHandoff
