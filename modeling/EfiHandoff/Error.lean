import EfiHandoff.Status
import EfiHandoff.Text.Number

/-!
# Why a handoff fails

The causes for which loading or starting a second program is given up, the class the boot menu shows for
each, its wording and the status reported to a firmware caller.
-/

set_option autoImplicit false

namespace EfiHandoff

def maxExitText : Nat := 128

/-- The coarse classes of the boot menu. -/
inductive ErrorClass
  | badArgument
  | outOfMemory
  | badDevice
  | unknownDevice
  | badFileType
  | badSystem
  | outOfRange
deriving DecidableEq, Repr

def ErrorClass.name : ErrorClass → String
  | .badArgument => "BadArgument"
  | .outOfMemory => "OutOfMemory"
  | .badDevice => "BadDevice"
  | .unknownDevice => "UnknownDevice"
  | .badFileType => "BadFileType"
  | .badSystem => "BadOs"
  | .outOfRange => "OutOfRange"

inductive BootError
  | missingFileName
  /-- The path has no slash between directory and file. -/
  | pathWithoutDirectory
  /-- A device path node declares fewer bytes than its own header. -/
  | malformedNode (length : Nat)
  | unterminatedDevicePath
  | componentTooLong
  | noRootDevice
  /-- The device path of the file names no file. -/
  | noFilePathNode
  | outOfMemory
  | loaderOutOfResources
  | fileNotFound
  | deviceFailure (status : Status)
  /-- The file is empty or shorter than promised. -/
  | endOfFile
  | fileTooLarge (size : UInt64)
  | noMatchingSlice
  | loaderRefused (status : Status)
  /-- There is no loaded-image record to work with. -/
  | noImageRecord
  | programFailed (status : Status) (text : String)
  | invalidHeader (reason : String)
  | unsupportedMachine (machine : UInt16)
  | invalidAlignment (alignment : UInt32)
  | noTrustRoot
  | verificationFailed
  | contextUnsupported
  | contextRejected
  /-- The trust root failed in another way. -/
  | contextFailed (status : Status)
  | sectionOutOfRange
  | relocationOutOfRange
  | relocationBlockTooSmall (size : UInt32)
  | relocationPageOutOfRange
  | unknownFixup (kind : UInt8)
  | entryOutOfRange
deriving DecidableEq, Repr

namespace BootError

def errorClass : BootError → ErrorClass
  | .missingFileName | .pathWithoutDirectory | .noTrustRoot | .verificationFailed
  | .contextUnsupported | .contextRejected | .contextFailed _ => .badArgument
  | .outOfMemory | .loaderOutOfResources => .outOfMemory
  | .noRootDevice | .deviceFailure _ => .badDevice
  | .noFilePathNode | .fileNotFound => .unknownDevice
  | .malformedNode _ | .unterminatedDevicePath | .componentTooLong
  | .sectionOutOfRange => .outOfRange
  | .endOfFile | .fileTooLarge _ | .noMatchingSlice | .loaderRefused _ | .noImageRecord
  | .programFailed _ _ => .badSystem
  | .invalidHeader _ | .unsupportedMachine _ | .invalidAlignment _ | .relocationOutOfRange
  | .relocationBlockTooSmall _ | .relocationPageOutOfRange | .unknownFixup _
  | .entryOutOfRange => .badFileType

def classStatus : ErrorClass → Status
  | .badArgument => .invalidParameter
  | .outOfMemory => .outOfResources
  | .badDevice | .unknownDevice => .notFound
  | .badFileType | .badSystem => .loadError
  | .outOfRange => .badBufferSize

/-- The status reported to a firmware caller: one that came from the firmware is passed on, a few causes have
a status of their own, and the rest take that of their class. -/
def status (error : BootError) : Status :=
  match error with
  | .verificationFailed => .securityViolation
  | .contextUnsupported | .unsupportedMachine _ => .unsupported
  | .loaderRefused status | .contextFailed status | .programFailed status _
  | .deviceFailure status => status
  | .noTrustRoot => .notFound
  | _ => classStatus error.errorClass

def message : BootError → String
  | .missingFileName => "filename expected"
  | .pathWithoutDirectory => "invalid file path"
  | .malformedNode length => s!"malformed device path node has length={length}"
  | .unterminatedDevicePath => "device path has no end node"
  | .componentTooLong => "file path component too long"
  | .noRootDevice => "not a valid root device"
  | .noFilePathNode => "no matching file path found"
  | .outOfMemory => "out of memory"
  | .loaderOutOfResources => "out of resources"
  | .fileNotFound => "file not found"
  | .deviceFailure status => s!"read error ({Text.hex status.code.toNat})"
  | .endOfFile => "premature end of file"
  | .fileTooLarge size => s!"image too large ({size} bytes)"
  | .noMatchingSlice => "no compatible arch found"
  | .loaderRefused _ => "cannot load image"
  | .noImageRecord => "no loaded image available"
  | .programFailed _ text => if text.isEmpty then "unknown error" else text
  | .invalidHeader reason => s!"invalid PE header: {reason}"
  | .unsupportedMachine machine => s!"unsupported machine type {Text.hexPadded 4 machine.toNat}"
  | .invalidAlignment alignment => s!"invalid section alignment {Text.hex alignment.toNat}"
  | .noTrustRoot => "no shim lock protocol"
  | .verificationFailed => "verify failed"
  | .contextUnsupported => "context error unsupported"
  | .contextRejected => "context error invalid parameter"
  | .contextFailed _ => "context error code"
  | .sectionOutOfRange => "invalid section size"
  | .relocationOutOfRange => "relocation table overflows binary"
  | .relocationBlockTooSmall size => s!"invalid relocation block size {size}"
  | .relocationPageOutOfRange => "invalid fixup base"
  | .unknownFixup kind => s!"unknown relocation type {kind}"
  | .entryOutOfRange => "invalid entry point"

end BootError

inductive FileError
  | notFound
  | short
  | device (status : Status)
deriving DecidableEq, Repr

namespace FileError

def bootError : FileError → BootError
  | .notFound => .fileNotFound
  | .short => .endOfFile
  | .device status => .deviceFailure status

end FileError

end EfiHandoff
