import EfiHandoff.Image.Header
import EfiHandoff.Image.Relocation

/-!
# Building small images

A blueprint lists the sections and the fixups of an image, and building it writes the file: the headers, the
section table and the section data, each rounded up to the alignment of the file. Fixups become a section of
their own behind the others, with one block for each page.
-/

set_option autoImplicit false

namespace EfiHandoff.Image

def fileAlignment : Nat := 0x200

def builtSignature : Nat := 0x40

def builtDirectories : Nat := 16

def builtOptionalSize : Nat := optionalHeaderSize + builtDirectories * directorySize

def builtSectionTable : Nat := builtSignature + 4 + fileHeaderSize + builtOptionalSize

/-- The least multiple of `unit` that is not below `value`. -/
def roundUp (value unit : Nat) : Nat := (value + unit - 1) / unit * unit

structure PlannedSection where
  /-- The name in UTF-8, of which eight bytes are kept. -/
  name : Bytes
  virtualAddress : UInt32
  virtualSize : UInt32
  data : Buffer
deriving DecidableEq, Repr

/-- What a built image is made of. -/
structure Blueprint where
  machine : UInt16 := machineAmd64
  imageBase : UInt64 := 0x140000000
  alignment : UInt32 := 0x1000
  entry : UInt32 := 0x1000
  sections : List PlannedSection := []
  fixups : List (FixupKind × UInt32) := []
deriving DecidableEq, Repr

/-- A built file, and where its parts ended up. -/
structure BuiltImage where
  file : Buffer
  imageSize : UInt32
  relocations : Directory
  sectionTable : Nat
  /-- Where the data of each section stand in the file, zero for a section without data. -/
  rawOffsets : List Nat
deriving DecidableEq, Repr

def pageOf (place : UInt32) : UInt32 := place &&& 0xfffff000

def insertPage (page : UInt32) : List UInt32 → List UInt32
  | [] => [page]
  | first :: rest =>
      if page < first then page :: first :: rest
      else if page = first then first :: rest
      else first :: insertPage page rest

def fixupEntry (fixup : FixupKind × UInt32) : Nat :=
  fixup.1.code * 0x1000 + (fixup.2 &&& 0xfff).toNat

namespace Blueprint

def pages (plan : Blueprint) : List UInt32 :=
  plan.fixups.foldr (fun fixup found => insertPage (pageOf fixup.2) found) []

/-- The entries of the block of one page, padded to an even number. -/
def blockEntries (plan : Blueprint) (page : UInt32) : List Nat :=
  let entries := (plan.fixups.filter fun fixup => pageOf fixup.2 = page).map fixupEntry
  if entries.length % 2 = 1 then entries ++ [0] else entries

def block (plan : Blueprint) (page : UInt32) : Bytes :=
  let entries := plan.blockEntries page
  Bytes.ofNat 4 page.toNat ++ Bytes.ofNat 4 (blockHeaderSize + 2 * entries.length) ++
    entries.flatMap (Bytes.ofNat 2)

def relocationTable (plan : Blueprint) : Bytes := plan.pages.flatMap plan.block

def declaredEnd (plan : Blueprint) : Nat :=
  (plan.sections.map fun part => (part.virtualAddress + part.virtualSize).toNat).foldr max 0

/-- Where the relocation section goes: behind the declared sections, and never on the first page. -/
def relocationStart (plan : Blueprint) : UInt32 :=
  UInt32.ofNat (roundUp (max plan.declaredEnd plan.alignment.toNat) plan.alignment.toNat)

def relocations (plan : Blueprint) : Directory :=
  if plan.relocationTable.isEmpty then .absent
  else ⟨plan.relocationStart, UInt32.ofNat plan.relocationTable.length⟩

/-- All sections of the built image: the declared ones, and the relocation section if it holds anything. -/
def allSections (plan : Blueprint) : List PlannedSection :=
  let table := plan.relocationTable
  if table.isEmpty then plan.sections
  else plan.sections ++ [⟨".reloc".toUTF8.data.toList, plan.relocationStart,
    UInt32.ofNat table.length, table.toArray⟩]

def imageEnd (plan : Blueprint) : Nat :=
  if plan.relocationTable.isEmpty then plan.declaredEnd
  else plan.relocationStart.toNat + plan.relocationTable.length

def headersSize (plan : Blueprint) : Nat :=
  roundUp (builtSectionTable + sectionHeaderSize * plan.allSections.length) fileAlignment

def imageSize (plan : Blueprint) : Nat :=
  roundUp (max plan.imageEnd plan.headersSize) plan.alignment.toNat

/-- Where the data of sections go in a file that is filled up to `filled`. -/
def rawOffsetsFrom (filled : Nat) : List PlannedSection → List Nat
  | [] => []
  | part :: rest =>
      if part.data.isEmpty then 0 :: rawOffsetsFrom filled rest
      else filled :: rawOffsetsFrom (filled + roundUp part.data.size fileAlignment) rest

def rawOffsets (plan : Blueprint) : List Nat :=
  rawOffsetsFrom plan.headersSize plan.allSections

def padded (size : Nat) (bytes : Bytes) : Bytes :=
  bytes.take size ++ List.replicate (size - bytes.length) 0

def dosHeader : Bytes :=
  padded 0x3c (Bytes.ofNat 2 dosMagic) ++ Bytes.ofNat 4 builtSignature

def fileHeader (plan : Blueprint) : Bytes :=
  Bytes.ofNat 4 signatureMagic ++ Bytes.ofNat 2 plan.machine.toNat ++
    Bytes.ofNat 2 plan.allSections.length ++ padded 12 [] ++ Bytes.ofNat 2 builtOptionalSize ++
    Bytes.ofNat 2 0x22

def optionalHeader (plan : Blueprint) : Bytes :=
  padded 16 (Bytes.ofNat 2 optionalMagic) ++
    padded 8 (Bytes.ofNat 4 plan.entry.toNat) ++
    Bytes.ofNat 8 plan.imageBase.toNat ++
    Bytes.ofNat 4 plan.alignment.toNat ++
    padded 20 (Bytes.ofNat 4 fileAlignment) ++
    Bytes.ofNat 4 plan.imageSize ++
    padded 8 (Bytes.ofNat 4 plan.headersSize) ++
    padded 40 (Bytes.ofNat 2 10) ++
    Bytes.ofNat 4 builtDirectories

def directories (plan : Blueprint) : Bytes :=
  padded (relocationIndex * directorySize) [] ++
    padded ((builtDirectories - relocationIndex) * directorySize)
      (Bytes.ofNat 4 plan.relocations.start.toNat ++ Bytes.ofNat 4 plan.relocations.size.toNat)

def sectionHeader (part : PlannedSection) (rawOffset : Nat) : Bytes :=
  padded 8 part.name ++ Bytes.ofNat 4 part.virtualSize.toNat ++
    Bytes.ofNat 4 part.virtualAddress.toNat ++ Bytes.ofNat 4 part.data.size ++
    padded 20 (Bytes.ofNat 4 rawOffset)

def headers (plan : Blueprint) : Bytes :=
  padded plan.headersSize
    (dosHeader ++ plan.fileHeader ++ plan.optionalHeader ++ plan.directories ++
      (List.zipWith sectionHeader plan.allSections plan.rawOffsets).flatten)

def sectionData (part : PlannedSection) : Bytes :=
  padded (roundUp part.data.size fileAlignment) part.data.toList

def build (plan : Blueprint) : BuiltImage where
  file := (plan.headers ++ plan.allSections.flatMap sectionData).toArray
  imageSize := UInt32.ofNat plan.imageSize
  relocations := plan.relocations
  sectionTable := builtSectionTable
  rawOffsets := plan.rawOffsets

end Blueprint

end EfiHandoff.Image
