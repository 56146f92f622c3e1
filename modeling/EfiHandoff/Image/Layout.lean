import EfiHandoff.Buffer

/-!
# The layout of an executable

What the headers of an executable say about its loaded form, and one section of it. None of these numbers is
trusted: each is checked where it is used. Places in the file are called offsets, places in the loaded image are
relative to its first byte.
-/

set_option autoImplicit false

namespace EfiHandoff.Image

/-- An entry of the data directory: a run of bytes of the loaded image. -/
structure Directory where
  start : UInt32
  size : UInt32
deriving DecidableEq, Repr, Inhabited

def Directory.absent : Directory := ⟨0, 0⟩

/-- The loadable layout of an executable. -/
@[ext]
structure Layout where
  preferredBase : UInt64
  imageSize : UInt64
  entry : UInt64
  headersSize : UInt64
  sectionCount : UInt16
  sectionTable : UInt64
  relocations : Directory
  directoryCount : UInt64
  alignment : UInt32
deriving DecidableEq, Repr

def relocationIndex : Nat := 5

def sectionHeaderSize : Nat := 40

def isPowerOfTwo (value : UInt32) : Bool := value != 0 && value &&& (value - 1) == 0

/-- One section: where it goes in the image and where its data comes from in the file. -/
structure Section where
  name : Bytes
  virtualAddress : UInt32
  virtualSize : UInt32
  rawOffset : UInt32
  rawSize : UInt32
deriving DecidableEq, Repr

namespace Section

/-- How many bytes come from the file. What the section holds beyond them is zero. -/
def copySize (part : Section) : UInt32 := min part.virtualSize part.rawSize

/-- The name up to its first NUL, or a stand-in when it is not UTF-8. -/
def shownName (part : Section) : String :=
  (String.fromUTF8? ⟨(part.name.takeWhile (· ≠ 0)).toArray⟩).getD "<invalid>"

end Section

end EfiHandoff.Image
