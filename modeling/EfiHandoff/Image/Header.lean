import EfiHandoff.Bounds
import EfiHandoff.Fault
import EfiHandoff.Image.Layout

/-!
# Reading the headers

An executable starts with a DOS header that points at a signature; after it come the file header, the optional
header with the data directory, and the section headers. Reading checks them front to back and stops at the
first that is wrong. Only what the loader needs is looked at: the sections and the relocation table are checked
against the image when they are used.
-/

set_option autoImplicit false

namespace EfiHandoff.Image

def dosHeaderSize : Nat := 64

def fileHeaderSize : Nat := 20

/-- The size of the optional header before the data directory. -/
def optionalHeaderSize : Nat := 112

def directorySize : Nat := 8

def dosMagic : Nat := 0x5a4d

def signatureMagic : Nat := 0x4550

def optionalMagic : Nat := 0x20b

def machineAmd64 : UInt16 := 0x8664

def machineArm64 : UInt16 := 0xaa64

/-- The first thing wrong with the headers. -/
inductive HeaderFault
  | tooSmall
  | dosMagic (found : Nat)
  /-- A part called `what` does not lie in the file. -/
  | outside (what : String) (offset length : Nat)
  | signature (found : Nat)
  | machine (found : UInt16)
  | optionalTooSmall (size : Nat)
  | optionalMagic (found : Nat)
  | emptyImage
  | headersTooLarge (headers image : Nat)
  | alignment (found : UInt32)
deriving DecidableEq, Repr

instance : Fault HeaderFault where
  error
    | .tooSmall => .invalidHeader "file too small"
    | .dosMagic _ => .invalidHeader "bad DOS magic"
    | .outside what _ _ => .invalidHeader what
    | .signature _ => .invalidHeader "bad PE signature"
    | .machine found => .unsupportedMachine found
    | .optionalTooSmall _ => .invalidHeader "optional header too small"
    | .optionalMagic _ => .invalidHeader "not a PE32+ image"
    | .emptyImage => .invalidHeader "image size is zero"
    | .headersTooLarge _ _ => .invalidHeader "headers larger than image"
    | .alignment found => .invalidAlignment found
  journal fault := [Origin.header.error (match fault with
    | .tooSmall => "PE: Data too small for DOS header"
    | .dosMagic found => s!"PE: Invalid DOS magic: {Text.hex found}"
    | .outside what offset length =>
        s!"PE: {what} outside file ({Text.hex offset} +{Text.hex length})"
    | .signature found => s!"PE: Invalid PE signature: {Text.hex found}"
    | .machine found => s!"PE: Unsupported machine type: {Text.hex found.toNat}"
    | .optionalTooSmall size => s!"PE: Optional header too small ({size} bytes)"
    | .optionalMagic found => s!"PE: Not a PE32+ image: {Text.hex found}"
    | .emptyImage => "PE: Image size is zero"
    | .headersTooLarge headers image =>
        s!"PE: Headers ({Text.hex headers}) larger than image ({Text.hex image})"
    | .alignment found => s!"PE: Invalid section alignment {Text.hex found.toNat}")]

def inFile (file : Buffer) (offset length : Nat) (what : String) : Except HeaderFault Unit :=
  match Extent.within? file.size offset length with
  | some _ => .ok ()
  | none => .error (.outside what offset length)

def HeaderFault.unless (fault : HeaderFault) (condition : Bool) : Except HeaderFault Unit :=
  if condition then .ok () else .error fault

def readLayout (file : Buffer) : Except HeaderFault Layout := do
  HeaderFault.tooSmall.unless (dosHeaderSize ≤ file.size)
  let magic := file.word 0 2
  (HeaderFault.dosMagic magic).unless (magic == dosMagic)
  let signatureAt := file.word 0x3c 4
  inFile file signatureAt 4 "PE signature"
  let signature := file.word signatureAt 4
  (HeaderFault.signature signature).unless (signature == signatureMagic)
  let headerAt := signatureAt + 4
  inFile file headerAt fileHeaderSize "COFF header"
  let machine := UInt16.ofNat (file.word headerAt 2)
  (HeaderFault.machine machine).unless (machine == machineAmd64 || machine == machineArm64)
  let optionalAt := headerAt + fileHeaderSize
  let optionalSize := file.word (headerAt + 16) 2
  (HeaderFault.optionalTooSmall optionalSize).unless (optionalHeaderSize ≤ optionalSize)
  inFile file optionalAt optionalSize "optional header"
  let optionalFound := file.word optionalAt 2
  (HeaderFault.optionalMagic optionalFound).unless (optionalFound == optionalMagic)
  let imageSize := file.word (optionalAt + 56) 4
  let headersSize := file.word (optionalAt + 60) 4
  let alignment := UInt32.ofNat (file.word (optionalAt + 32) 4)
  HeaderFault.emptyImage.unless (imageSize != 0)
  (HeaderFault.headersTooLarge headersSize imageSize).unless (headersSize ≤ imageSize)
  (HeaderFault.alignment alignment).unless (isPowerOfTwo alignment)
  -- Only the directories that fit inside the optional header count.
  let directoryCount :=
    min (file.word (optionalAt + 108) 4) ((optionalSize - optionalHeaderSize) / directorySize)
  let directoryAt := optionalAt + optionalHeaderSize + relocationIndex * directorySize
  if relocationIndex < directoryCount then
    inFile file directoryAt directorySize "data directory"
  let relocations : Directory :=
    if relocationIndex < directoryCount then
      ⟨UInt32.ofNat (file.word directoryAt 4), UInt32.ofNat (file.word (directoryAt + 4) 4)⟩
    else .absent
  let sectionCount := UInt16.ofNat (file.word (headerAt + 2) 2)
  let sectionTable := optionalAt + optionalSize
  inFile file sectionTable (sectionCount.toNat * sectionHeaderSize) "section table"
  return {
    preferredBase := UInt64.ofNat (file.word (optionalAt + 24) 8)
    imageSize := UInt64.ofNat imageSize
    entry := UInt64.ofNat (file.word (optionalAt + 16) 4)
    headersSize := UInt64.ofNat headersSize
    sectionCount
    sectionTable := UInt64.ofNat sectionTable
    relocations
    directoryCount := UInt64.ofNat directoryCount
    alignment }

def Layout.summary (layout : Layout) : Entry :=
  let base := Text.hex layout.preferredBase.toNat
  let size := Text.hex layout.imageSize.toNat
  let entry := Text.hex layout.entry.toNat
  Origin.header.debug
    s!"PE: image_base={base}, size={size}, entry_rva={entry}, sections={layout.sectionCount}"

def readLayoutJournal : Except HeaderFault Layout → Journal
  | .ok layout => [layout.summary]
  | .error fault => Fault.journal fault

end EfiHandoff.Image
