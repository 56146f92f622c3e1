import EfiHandoff.DevicePath.FilePath

/-!
# Load options and exit texts

The arguments after the file name become the load options of the started program: joined by single spaces, in
UTF-16, with NUL at the end. The text a failed program hands back is UTF-16 too and is kept up to a limit.
-/

set_option autoImplicit false

namespace EfiHandoff.LoadOptions

/-- The memory for the load options was refused. -/
structure Refused where
  bytes : Nat
deriving DecidableEq, Repr

instance : Fault Refused where
  error _ := .outOfMemory
  journal refused :=
    [Origin.options.error s!"Chainload: Failed to allocate {refused.bytes} bytes of load options"]

/-- The units set aside for a list of arguments: each with a space or the NUL behind it. -/
def reservation : List (List Char) → Nat
  | [] => 0
  | argument :: rest => (Utf16.encode argument).length + 1 + reservation rest

def joined : List (List Char) → List UInt16
  | [] => []
  | [argument] => Utf16.encode argument
  | argument :: rest => Utf16.encode argument ++ 0x20 :: joined rest

def encode (limit : MemoryLimit) (arguments : List (List Char)) :
    Except Refused (Option (List UInt16)) :=
  if arguments.isEmpty then .ok none
  else if !limit.grants (2 * reservation arguments) then .error ⟨2 * reservation arguments⟩
  else .ok (some (joined arguments ++ [0]))

def sizeInBytes (options : List UInt16) : UInt32 := UInt32.ofNat (options.length * 2)

/-- The longest beginning of a text that takes at most `room` bytes in UTF-8. -/
def fitting (room : Nat) : List Char → List Char
  | [] => []
  | char :: rest =>
      if char.utf8Size ≤ room then char :: fitting (room - char.utf8Size) rest else []

/-- The text in exit data: up to its first NUL, and no longer than the limit. -/
def exitText (data : List UInt16) : String :=
  String.ofList (fitting maxExitText (Utf16.decode (Utf16.untilNul data)))

end EfiHandoff.LoadOptions
