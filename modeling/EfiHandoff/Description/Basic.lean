import EfiHandoff.Error
import EfiHandoff.Fault
import EfiHandoff.Text.Dump
import EfiHandoff.Text.Utf16

/-!
# Descriptions

A value laid open for a front end as a tree of named fields, lists and plain values, so that it can be shown in
any notation for such trees. Quantities of 64 bits are described in hexadecimal, buffers by their dump, and a
list of code units by the dump of its bytes.
-/

set_option autoImplicit false

namespace EfiHandoff

inductive Description
  | nothing
  | flag (value : Bool)
  | count (value : Nat)
  | text (value : String)
  | items (members : List Description)
  | fields (members : List (String × Description))

/-- Types whose values can be described. -/
class Described (α : Type) where
  describe : α → Description

export Described (describe)

namespace Description

def word (value : Nat) : Description := .text (Text.hex value)

def field {α : Type} [Described α] (name : String) (value : α) : String × Description :=
  (name, describe value)

def extend (description : Description) (added : List (String × Description)) : Description :=
  match description with
  | .fields members => .fields (members ++ added)
  | other => other

end Description

instance : Described Description := ⟨id⟩
instance : Described String := ⟨.text⟩
instance : Described Bool := ⟨.flag⟩
instance : Described Nat := ⟨.count⟩
instance : Described UInt8 := ⟨fun value => .count value.toNat⟩
instance : Described UInt16 := ⟨fun value => .count value.toNat⟩
instance : Described UInt32 := ⟨fun value => .count value.toNat⟩
instance : Described UInt64 := ⟨fun value => .word value.toNat⟩
instance : Described Status := ⟨fun status => describe status.code⟩
instance : Described Buffer := ⟨fun buffer => .text (Text.showBuffer buffer)⟩

instance : Described Unit := ⟨fun _ => .text "ok"⟩

instance {α : Type} [Described α] : Described (Option α) where
  describe
    | some value => describe value
    | none => .nothing

instance (priority := low) {α : Type} [Described α] : Described (List α) :=
  ⟨fun members => .items (members.map describe)⟩

instance : Described (List Char) := ⟨fun chars => .text (String.ofList chars)⟩
instance : Described Bytes := ⟨fun bytes => describe bytes.toArray⟩
instance : Described (List UInt16) := ⟨fun units => describe (Utf16.toBytes units)⟩

/-- Types whose values are described by the members of one list. -/
class DescribedRow (α : Type) where
  members : α → List Description

instance (priority := low) {α : Type} [Described α] : DescribedRow α :=
  ⟨fun value => [describe value]⟩

instance {α β : Type} [Described α] [DescribedRow β] : DescribedRow (α × β) :=
  ⟨fun (first, rest) => describe first :: DescribedRow.members rest⟩

instance {α β : Type} [Described α] [DescribedRow β] : Described (α × β) :=
  ⟨fun row => .items (DescribedRow.members row)⟩

instance : Described (Except Status UInt64) where
  describe
    | .ok value => .text s!"ok {Text.hex value.toNat}"
    | .error status => .text s!"err {Text.hex status.code.toNat}"

def BootError.label : BootError → String
  | .missingFileName => "FilenameExpected"
  | .pathWithoutDirectory => "InvalidFilePath"
  | .malformedNode _ => "MalformedDevicePathNode"
  | .unterminatedDevicePath => "UnterminatedDevicePath"
  | .componentTooLong => "PathComponentTooLong"
  | .noRootDevice => "NotARootDevice"
  | .noFilePathNode => "NoMatchingFilePath"
  | .outOfMemory => "OutOfMemory"
  | .loaderOutOfResources => "OutOfResources"
  | .fileNotFound => "FileNotFound"
  | .deviceFailure _ => "Io"
  | .endOfFile => "PrematureEndOfFile"
  | .fileTooLarge _ => "ImageTooLarge"
  | .noMatchingSlice => "NoCompatibleArch"
  | .loaderRefused _ => "CannotLoadImage"
  | .noImageRecord => "NoLoadedImage"
  | .programFailed _ _ => "ImageFailed"
  | .invalidHeader _ => "InvalidHeader"
  | .unsupportedMachine _ => "UnsupportedMachine"
  | .invalidAlignment _ => "InvalidSectionAlignment"
  | .noTrustRoot => "NoShimLock"
  | .verificationFailed => "VerifyFailed"
  | .contextUnsupported => "ContextUnsupported"
  | .contextRejected => "ContextInvalidParameter"
  | .contextFailed _ => "ContextError"
  | .sectionOutOfRange => "InvalidSectionSize"
  | .relocationOutOfRange => "RelocationOverflow"
  | .relocationBlockTooSmall _ => "InvalidRelocationBlock"
  | .relocationPageOutOfRange => "InvalidFixupBase"
  | .unknownFixup _ => "UnknownRelocation"
  | .entryOutOfRange => "InvalidEntryPoint"

instance : Described BootError where
  describe error := .fields [
    Description.field "error" error.errorClass.name,
    Description.field "variant" error.label,
    Description.field "message" error.message,
    Description.field "status" error.status]

instance {α : Type} [Described α] : Described (Except BootError α) where
  describe
    | .ok value => describe value
    | .error error => describe error

instance {φ α : Type} [Fault φ] [Described α] : Described (Except φ α) :=
  ⟨fun result => describe (Fault.simplify result)⟩

end EfiHandoff
