import EfiHandoff.Proofs.Image.Headers
import EfiHandoff.Proofs.Buffer

/-!
# A guarded reading of the headers

The headers are read once more, each part cut out of the file before a number is read from it, with every cut part
checked for the length of what it should hold, and every sum, product and difference for the 64-bit range. That none of
the guards ever stops the reading is proved, and so it is the reading of headers that this describes.
-/

set_option autoImplicit false

namespace EfiHandoff.Image

inductive HeaderGuard
  | reported (fault : HeaderFault)
  | overflow
  /-- The part called `what` was cut out with another length than it has. -/
  | partLost (what : String)
deriving DecidableEq, Repr

namespace HeaderGuard

def part (file : Buffer) (offset length : Nat) (what : String) : Except HeaderGuard Buffer :=
  match file.read? offset length with
  | none => .error (.reported (.outside what offset length))
  | some bytes => .ok bytes

def front (guard : HeaderGuard) (bytes : Buffer) (length : Nat) : Except HeaderGuard Buffer :=
  if length ≤ bytes.size then .ok (bytes.slice 0 length) else .error guard

def whole (guard : HeaderGuard) (bytes : Buffer) (length : Nat) : Except HeaderGuard Buffer :=
  if bytes.size = length then .ok bytes else .error guard

def demand (fault : HeaderFault) (condition : Bool) : Except HeaderGuard Unit :=
  if condition then .ok () else .error (.reported fault)

def ranged (number : Nat) : Except HeaderGuard Nat :=
  if number < wordLimit then .ok number else .error .overflow

def difference (left right : Nat) : Except HeaderGuard Nat :=
  if right ≤ left then .ok (left - right) else .error .overflow

end HeaderGuard

section Guarded

open HeaderGuard

def guardedDirectory (file : Buffer) (optionalAt directoryCount : Nat) : Except HeaderGuard Directory :=
  if relocationIndex < directoryCount then do
    let directories ← ranged (optionalAt + optionalHeaderSize)
    let directoryAt ← ranged (directories + relocationIndex * directorySize)
    let bytes ← part file directoryAt directorySize "data directory"
    let directory ← whole (.partLost "data directory") bytes directorySize
    return ⟨UInt32.ofNat (directory.word 0 4), UInt32.ofNat (directory.word 4 4)⟩
  else return .absent

def guardedLayout (file : Buffer) : Except HeaderGuard Layout := do
  let dos ← front (.reported .tooSmall) file dosHeaderSize
  demand (.dosMagic (dos.word 0 2)) (dos.word 0 2 == dosMagic)
  let signatureAt := dos.word 0x3c 4
  let bytes ← part file signatureAt 4 "PE signature"
  let signature ← whole (.partLost "PE signature") bytes 4
  demand (.signature (signature.word 0 4)) (signature.word 0 4 == signatureMagic)
  let headerAt ← ranged (signatureAt + 4)
  let bytes ← part file headerAt fileHeaderSize "COFF header"
  let header ← whole (.partLost "COFF header") bytes fileHeaderSize
  let machine := UInt16.ofNat (header.word 0 2)
  demand (.machine machine) (machine == machineAmd64 || machine == machineArm64)
  let optionalAt ← ranged (headerAt + fileHeaderSize)
  let optionalSize := header.word 16 2
  demand (.optionalTooSmall optionalSize) (optionalHeaderSize ≤ optionalSize)
  let bytes ← part file optionalAt optionalSize "optional header"
  let optional ← front (.partLost "optional header") bytes optionalHeaderSize
  demand (.optionalMagic (optional.word 0 2)) (optional.word 0 2 == optionalMagic)
  let imageSize := optional.word 56 4
  let headersSize := optional.word 60 4
  let alignment := UInt32.ofNat (optional.word 32 4)
  demand .emptyImage (imageSize != 0)
  demand (.headersTooLarge headersSize imageSize) (headersSize ≤ imageSize)
  demand (.alignment alignment) (isPowerOfTwo alignment)
  let room ← difference optionalSize optionalHeaderSize
  let directoryCount := min (optional.word 108 4) (room / directorySize)
  let relocations ← guardedDirectory file optionalAt directoryCount
  let sectionCount := UInt16.ofNat (header.word 2 2)
  let sectionTable ← ranged (optionalAt + optionalSize)
  let sectionHeaders ← ranged (sectionCount.toNat * sectionHeaderSize)
  let _ ← part file sectionTable sectionHeaders "section table"
  return {
    preferredBase := UInt64.ofNat (optional.word 24 8)
    imageSize := UInt64.ofNat imageSize
    entry := UInt64.ofNat (optional.word 16 4)
    headersSize := UInt64.ofNat headersSize
    sectionCount
    sectionTable := UInt64.ofNat sectionTable
    relocations
    directoryCount := UInt64.ofNat directoryCount
    alignment }

end Guarded

section Rules

open HeaderGuard

variable {α : Type} {file : Buffer} {value : α} {guard : HeaderGuard} {offset length : Nat} {what : String}
  {conditions : List (Condition HeaderGuard)} {error : BootError}

private theorem part_of_inside (reach : offset + length ≤ wordLimit) (inside : offset + length ≤ file.size) :
    part file offset length what = .ok (file.slice offset length) := by
  unfold part Buffer.read?
  rw [Extent.within?_of_reach reach inside, Option.bind_some, Extent.of?_of_le inside]

private theorem part_of_outside (outside : file.size < offset + length) :
    part file offset length what = .error (.reported (.outside what offset length)) := by
  unfold part Buffer.read?
  rw [Extent.within?_of_lt outside]
  rfl

private theorem front_of_le (inside : length ≤ file.size) : front guard file length = .ok (file.slice 0 length) :=
    if_pos inside

private theorem whole_slice (inside : offset + length ≤ file.size) :
    whole guard (file.slice offset length) length = .ok (file.slice offset length) :=
  if_pos (Buffer.size_slice inside)

private theorem front_slice {least : Nat} (inside : offset + length ≤ file.size) (long : least ≤ length) :
    front guard (file.slice offset length) least = .ok (file.slice offset least) := by
  rw [front_of_le (by rwa [Buffer.size_slice inside]), Buffer.slice_slice file (by omega), Nat.add_zero]

private theorem ranged_of_lt {number : Nat} (small : number < wordLimit) : ranged number = .ok number := if_pos small

private theorem difference_of_le {left right : Nat} (least : right ≤ left) :
    difference left right = .ok (left - right) :=
  if_pos least

private theorem part_through {next : Buffer → Except HeaderGuard α} (reach : offset + length ≤ wordLimit)
    (rest : offset + length ≤ file.size → GoesThrough value conditions (next (file.slice offset length))) :
    GoesThrough value (⟨offset + length ≤ file.size, .reported (.outside what offset length), error⟩ :: conditions)
      (part file offset length what >>= next) :=
  .step (part_of_inside reach) (fun outside => part_of_outside (Nat.lt_of_not_le outside)) rest

private theorem front_through {next : Buffer → Except HeaderGuard α}
    (rest : length ≤ file.size → GoesThrough value conditions (next (file.slice 0 length))) :
    GoesThrough value (⟨length ≤ file.size, guard, error⟩ :: conditions) (front guard file length >>= next) :=
  .step front_of_le (fun outside => if_neg outside) rest

private theorem demand_through {next : Unit → Except HeaderGuard α} {condition : Condition HeaderGuard}
    {fault : HeaderFault}
    {holds : Bool} (same : holds = true ↔ condition.holds) (named : .reported fault = condition.fault)
    (rest : condition.holds → GoesThrough value conditions (next ())) :
    GoesThrough value (condition :: conditions) (demand fault holds >>= next) :=
  .decided same rfl (named ▸ rfl) rest

/-- The directory that counts is in the file already, so reading it fails for no reason. -/
theorem guardedDirectory_eq (inside : optionalAt file + optionalSize file ≤ file.size) :
    guardedDirectory file (optionalAt file) (directoryCount file) = .ok (declared file).relocations := by
  obtain ⟨-, optional, -, -⟩ := places_reach file
  have directories : optionalAt file + optionalHeaderSize < wordLimit := by
    unfold wordLimit optionalHeaderSize
    omega
  have place : directoryAt file < wordLimit := by
    simp only [directoryAt, wordLimit, optionalHeaderSize, relocationIndex, directorySize]
    omega
  have reach : directoryAt file + directorySize ≤ wordLimit := by
    simp only [directoryAt, wordLimit, optionalHeaderSize, relocationIndex, directorySize]
    omega
  unfold guardedDirectory
  by_cases counted : relocationIndex < directoryCount file
  · have present : directoryAt file + directorySize ≤ file.size := directory_inside inside counted
    rw [if_pos counted, relocations_of_counted counted]
    change GoesThrough _ [] _
    refine .pass (ranged_of_lt directories) (.pass (ranged_of_lt place) ?_)
    refine .pass (part_of_inside reach present) (.pass (whole_slice present) ?_)
    simp (disch := decide) only [Buffer.word_slice, Nat.add_zero]
    rfl
  · rw [if_neg counted, relocations_of_uncounted counted]
    rfl

end Rules

theorem guardedLayout_through (file : Buffer) :
    GoesThrough (declared file) ((headerConditions file).map (Condition.rename .reported)) (guardedLayout file) := by
  obtain ⟨header, optional, short, few⟩ := places_reach file
  have near : headerAt file < wordLimit := Nat.lt_of_le_of_lt header (by decide)
  have optionalNear : optionalAt file < wordLimit := Nat.lt_of_le_of_lt optional (by decide)
  have tableNear : optionalAt file + optionalSize file < wordLimit := by
    unfold wordLimit
    omega
  have tableShort : (sectionCount file).toNat * sectionHeaderSize < wordLimit := by
    unfold wordLimit sectionHeaderSize
    omega
  unfold guardedLayout
  refine front_through fun dosHeader => ?_
  simp (disch := decide) only [Buffer.word_slice, Nat.zero_add]
  refine demand_through beq_iff_eq rfl fun dosMagic => ?_
  refine part_through near.le fun signatureInside => ?_
  refine .pass (whole_slice signatureInside) ?_
  simp (disch := decide) only [Buffer.word_slice, Nat.add_zero]
  refine demand_through beq_iff_eq rfl fun signature => ?_
  refine .pass (ranged_of_lt near) ?_
  refine part_through (by unfold wordLimit; omega) fun fileHeader => ?_
  refine .pass (whole_slice fileHeader) ?_
  simp (disch := decide) only [Buffer.word_slice, Nat.add_zero]
  refine demand_through (by rw [Bool.or_eq_true, beq_iff_eq, beq_iff_eq]; exact Iff.rfl) rfl fun machine => ?_
  refine .pass (ranged_of_lt optionalNear) ?_
  refine demand_through decide_eq_true_iff rfl fun optionalLarge => ?_
  refine part_through (by unfold wordLimit; omega) fun optionalInside => ?_
  refine .pass (front_slice optionalInside optionalLarge) ?_
  simp (disch := decide) only [Buffer.word_slice, Nat.add_zero]
  refine demand_through beq_iff_eq rfl fun optionalMagic => ?_
  refine demand_through bne_iff_ne rfl fun nonempty => ?_
  refine demand_through decide_eq_true_iff rfl fun headersFit => ?_
  refine demand_through isPowerOfTwo_iff rfl fun alignment => ?_
  refine .pass (difference_of_le optionalLarge) ?_
  refine .pass (guardedDirectory_eq optionalInside) ?_
  refine .pass (ranged_of_lt tableNear) (.pass (ranged_of_lt tableShort) ?_)
  refine part_through (by unfold wordLimit; omega) fun table => ?_
  rfl

theorem guardedLayout_eq (file : Buffer) : guardedLayout file = (readLayout file).mapError HeaderGuard.reported :=
  (guardedLayout_through file).unique ((readLayout_through file).mapError HeaderGuard.reported)

end EfiHandoff.Image
