import EfiHandoff.DevicePath.Node
import EfiHandoff.Text.Quoted
import EfiHandoff.Text.Utf16

/-!
# File paths

From the textual path of a file to the device path that names it: the path of the boot device, a node for the
directory, a node for the file name and an end node. Names are UTF-16, end in NUL and are separated by
backslashes.
-/

set_option autoImplicit false

namespace EfiHandoff.DevicePath

/-- A path without the device name in front, which ends at the first closing parenthesis. -/
def withoutDevice (path : List Char) : List Char :=
  match path.dropWhile (· ≠ ')') with
  | [] => path
  | _ :: rest => rest

def splitLast? (path : List Char) : Option (List Char × List Char) :=
  match path.reverse.dropWhile (· ≠ '/') with
  | [] => none
  | _ :: before => some (before.reverse, (path.reverse.takeWhile (· ≠ '/')).reverse)

/-- Why no device path can be built for a file. -/
inductive FilePathFault
  /-- There is no slash in `path`, the device name being gone. -/
  | noDirectory (path : List Char)
  | device (fault : WalkFault)
  | refused (bytes : Nat)
  /-- A component of `units` units does not fit in a node. -/
  | tooLong (units : Nat)
deriving DecidableEq, Repr

instance : Fault FilePathFault where
  error
    | .noDirectory _ => .pathWithoutDirectory
    | .device fault => Fault.error fault
    | .refused _ => .outOfMemory
    | .tooLong _ => .componentTooLong
  journal
    | .noDirectory path =>
        [Origin.devicePath.error s!"DevicePath: No directory in {Text.quoted path}"]
    | .device fault => Fault.journal fault
    | .refused bytes => [Origin.devicePath.error s!"DevicePath: Failed to allocate {bytes} bytes"]
    | .tooLong units =>
        [Origin.devicePath.error s!"DevicePath: Component of {units} units too long"]

def splitPath (path : List Char) : Except FilePathFault (List Char × List Char) :=
  match splitLast? (withoutDevice path) with
  | some parts => .ok parts
  | none => .error (.noDirectory (withoutDevice path))

/-- A name as the firmware writes it: UTF-16 with backslashes for slashes, and NUL at its end. -/
def nameUnits (name : List Char) : List UInt16 :=
  (Utf16.encode name).map (fun unit => if unit = 0x2f then 0x5c else unit) ++ [0]

def nodeSizeLimit : Nat := 0x10000

def componentNode (offset : Nat) (component : List Char) : Except FilePathFault Node :=
  let units := nameUnits component
  if headerSize + 2 * units.length < nodeSizeLimit then
    .ok ⟨mediaType, filePathSubtype, offset, Utf16.toBytes units⟩
  else .error (.tooLong units.length)

def utf8Length : List Char → Nat
  | [] => 0
  | char :: rest => char.utf8Size + utf8Length rest

/-- The bytes set aside for a result: no UTF-8 byte makes more than one UTF-16 unit, and there are two NULs,
two headers and an end node. -/
def reservation (devicePart : Nat) (directory file : List Char) : Nat :=
  devicePart + (utf8Length directory + utf8Length file + 2) * 2 + 2 * headerSize + endNode.length

/-- The device path of the file at `path` on the device at `device`. -/
def ofFile (limit : MemoryLimit) (device : Bytes) (path : List Char) :
    Except FilePathFault Bytes := do
  let (directory, file) ← splitPath path
  let devicePart ← (sizeWithoutEnd device).mapError .device
  let wanted := reservation devicePart directory file
  if !limit.grants wanted then throw (.refused wanted)
  let directoryNode ← componentNode devicePart directory
  let fileNode ← componentNode (devicePart + directoryNode.size) file
  return device.take devicePart ++ directoryNode.encode ++ fileNode.encode ++ endNode

def ofFileJournal (path : List Char) : Except FilePathFault Bytes → Journal
  | .error fault => Fault.journal fault
  | .ok built =>
      match splitPath path with
      | .error _ => []
      | .ok (directory, file) =>
          [Origin.devicePath.debug
            s!"DevicePath: Built file path {Text.quoted directory} + {Text.quoted file} ({built.length} bytes)"]

def nameOf (payload : Bytes) : List Char :=
  Utf16.decode (Utf16.untilNul (Utf16.ofBytes payload))

def components (path : Bytes) : Except WalkFault (List (List Char)) :=
  (walk path).complete.map fun nodes =>
    (nodes.filter Node.isFilePath).map fun node => nameOf node.payload

end EfiHandoff.DevicePath
