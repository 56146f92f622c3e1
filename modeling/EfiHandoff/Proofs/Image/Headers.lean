import EfiHandoff.Image.Header
import EfiHandoff.Proofs.Bounds
import EfiHandoff.Proofs.Conditions

/-!
# The headers that are accepted

A file is read exactly when its headers meet a list of conditions, and refused for the first that they do not meet. What
is read is what stands at the places that the headers themselves name.
-/

set_option autoImplicit false

namespace EfiHandoff.Image

section Places

def signatureAt (file : Buffer) : Nat := file.word 0x3c 4

def headerAt (file : Buffer) : Nat := signatureAt file + 4

def optionalAt (file : Buffer) : Nat := headerAt file + fileHeaderSize

def optionalSize (file : Buffer) : Nat := file.word (headerAt file + 16) 2

/-- How many directories count: the declared ones that fit inside the optional header. -/
def directoryCount (file : Buffer) : Nat :=
  min (file.word (optionalAt file + 108) 4) ((optionalSize file - optionalHeaderSize) / directorySize)

def directoryAt (file : Buffer) : Nat := optionalAt file + optionalHeaderSize + relocationIndex * directorySize

def sectionCount (file : Buffer) : UInt16 := UInt16.ofNat (file.word (headerAt file + 2) 2)

/-- What the headers of a file say, whether or not they are right. -/
def declared (file : Buffer) : Layout where
  preferredBase := UInt64.ofNat (file.word (optionalAt file + 24) 8)
  imageSize := UInt64.ofNat (file.word (optionalAt file + 56) 4)
  entry := UInt64.ofNat (file.word (optionalAt file + 16) 4)
  headersSize := UInt64.ofNat (file.word (optionalAt file + 60) 4)
  sectionCount := sectionCount file
  sectionTable := UInt64.ofNat (optionalAt file + optionalSize file)
  relocations :=
    if relocationIndex < directoryCount file then
      ⟨UInt32.ofNat (file.word (directoryAt file) 4), UInt32.ofNat (file.word (directoryAt file + 4) 4)⟩
    else .absent
  directoryCount := UInt64.ofNat (directoryCount file)
  alignment := UInt32.ofNat (file.word (optionalAt file + 32) 4)

theorem relocations_of_counted {file : Buffer} (counted : relocationIndex < directoryCount file) :
    (declared file).relocations =
      ⟨UInt32.ofNat (file.word (directoryAt file) 4), UInt32.ofNat (file.word (directoryAt file + 4) 4)⟩ := by
  rw [declared, if_pos counted]

theorem relocations_of_uncounted {file : Buffer} (uncounted : ¬ relocationIndex < directoryCount file) :
    (declared file).relocations = .absent := by
  rw [declared, if_neg uncounted]

end Places

/-- The headers of a file are in order. -/
structure Accepted (file : Buffer) : Prop where
  dosHeader : dosHeaderSize ≤ file.size
  dosMagic : file.word 0 2 = dosMagic
  signatureInside : signatureAt file + 4 ≤ file.size
  signature : file.word (signatureAt file) 4 = signatureMagic
  fileHeader : headerAt file + fileHeaderSize ≤ file.size
  machine : UInt16.ofNat (file.word (headerAt file) 2) = machineAmd64 ∨
    UInt16.ofNat (file.word (headerAt file) 2) = machineArm64
  optionalLarge : optionalHeaderSize ≤ optionalSize file
  optionalInside : optionalAt file + optionalSize file ≤ file.size
  optionalMagic : file.word (optionalAt file) 2 = optionalMagic
  nonempty : file.word (optionalAt file + 56) 4 ≠ 0
  headersFit : file.word (optionalAt file + 60) 4 ≤ file.word (optionalAt file + 56) 4
  alignment : isPowerOfTwo (UInt32.ofNat (file.word (optionalAt file + 32) 4)) = true
  sectionTable : optionalAt file + optionalSize file + (sectionCount file).toNat * sectionHeaderSize ≤ file.size

section Conditions

/-- What is asked of the headers of a file, in the order in which it is asked. -/
def headerConditions (file : Buffer) : List (Condition HeaderFault) :=
  let dos := file.word 0 2
  let signature := file.word (signatureAt file) 4
  let machine := UInt16.ofNat (file.word (headerAt file) 2)
  let magic := file.word (optionalAt file) 2
  let imageSize := file.word (optionalAt file + 56) 4
  let headersSize := file.word (optionalAt file + 60) 4
  let alignment := UInt32.ofNat (file.word (optionalAt file + 32) 4)
  let sectionTable := optionalAt file + optionalSize file
  let sectionHeaders := (sectionCount file).toNat * 40
  [⟨64 ≤ file.size, .tooSmall, .invalidHeader "file too small"⟩,
    ⟨dos = 0x5a4d, .dosMagic dos, .invalidHeader "bad DOS magic"⟩,
    ⟨signatureAt file + 4 ≤ file.size, .outside "PE signature" (signatureAt file) 4,
      .invalidHeader "PE signature"⟩,
    ⟨signature = 0x4550, .signature signature, .invalidHeader "bad PE signature"⟩,
    ⟨headerAt file + 20 ≤ file.size, .outside "COFF header" (headerAt file) 20, .invalidHeader "COFF header"⟩,
    ⟨machine = 0x8664 ∨ machine = 0xaa64, .machine machine, .unsupportedMachine machine⟩,
    ⟨112 ≤ optionalSize file, .optionalTooSmall (optionalSize file), .invalidHeader "optional header too small"⟩,
    ⟨optionalAt file + optionalSize file ≤ file.size,
      .outside "optional header" (optionalAt file) (optionalSize file), .invalidHeader "optional header"⟩,
    ⟨magic = 0x20b, .optionalMagic magic, .invalidHeader "not a PE32+ image"⟩,
    ⟨imageSize ≠ 0, .emptyImage, .invalidHeader "image size is zero"⟩,
    ⟨headersSize ≤ imageSize, .headersTooLarge headersSize imageSize, .invalidHeader "headers larger than image"⟩,
    ⟨alignment.toNat.isPowerOfTwo, .alignment alignment, .invalidAlignment alignment⟩,
    ⟨sectionTable + sectionHeaders ≤ file.size, .outside "section table" sectionTable sectionHeaders,
      .invalidHeader "section table"⟩]

/-- The directories that count lie in the optional header, so that they need no check of their own. -/
theorem directory_inside {file : Buffer} (inside : optionalAt file + optionalSize file ≤ file.size)
    (counted : relocationIndex < directoryCount file) : directoryAt file + directorySize ≤ file.size := by
  have fits := Nat.lt_of_lt_of_le counted (Nat.min_le_right _ _)
  unfold directoryAt
  simp only [relocationIndex, directorySize, optionalHeaderSize] at fits ⊢
  omega

theorem isPowerOfTwo_iff {value : UInt32} : isPowerOfTwo value = true ↔ value.toNat.isPowerOfTwo := by
  have zero : value = 0 ↔ value.toNat = 0 := UInt32.toNat_inj.symm
  rw [← Nat.ne_zero_and_sub_one_eq_zero_iff_isPowerOfTwo, isPowerOfTwo, Bool.and_eq_true, bne_iff_ne, beq_iff_eq,
    ne_eq, zero]
  refine and_congr_right fun positive => ?_
  have one : (1 : UInt32) ≤ value := UInt32.le_iff_toNat_le.mpr (Nat.pos_of_ne_zero positive)
  rw [← UInt32.toNat_inj, UInt32.toNat_and, UInt32.toNat_sub_of_le _ _ one]
  exact Iff.rfl

section Rules

variable {α : Type} {file : Buffer} {value : α} {conditions : List (Condition HeaderFault)}
  {next : Unit → Except HeaderFault α} {offset length : Nat} {what : String}

private theorem unless_through {condition : Condition HeaderFault} {fault : HeaderFault} {holds : Bool}
    (same : holds = true ↔ condition.holds) (named : fault = condition.fault)
    (rest : condition.holds → GoesThrough value conditions (next ())) :
    GoesThrough value (condition :: conditions) (fault.unless holds >>= next) :=
  .decided same rfl (named ▸ rfl) rest

private theorem inFile_of_inside (reach : offset + length ≤ wordLimit) (inside : offset + length ≤ file.size) :
    inFile file offset length what = .ok () := by
  unfold inFile
  rw [Extent.within?_of_reach reach inside]

private theorem inFile_of_outside (outside : file.size < offset + length) :
    inFile file offset length what = .error (.outside what offset length) := by
  unfold inFile
  rw [Extent.within?_of_lt outside]

private theorem inFile_through {error : BootError} (reach : offset + length ≤ wordLimit)
    (rest : offset + length ≤ file.size → GoesThrough value conditions (next ())) :
    GoesThrough value (⟨offset + length ≤ file.size, .outside what offset length, error⟩ :: conditions)
      (inFile file offset length what >>= next) :=
  .step (inFile_of_inside reach) (fun outside => inFile_of_outside (Nat.lt_of_not_le outside)) rest

end Rules

variable {file : Buffer}

/-- Where the headers name a place, the name has 32 bits and the sizes behind it 16, so no sum leaves its range. -/
theorem places_reach (file : Buffer) :
    headerAt file ≤ 0x100000000 + 4 ∧ optionalAt file ≤ 0x100000000 + 24 ∧ optionalSize file < 0x10000 ∧
      (sectionCount file).toNat < 0x10000 := by
  have near : signatureAt file < 0x100000000 := Buffer.word_lt file 0x3c 4
  have short : optionalSize file < 0x10000 := Buffer.word_lt file (headerAt file + 16) 2
  refine ⟨?_, ?_, short, UInt16.toNat_lt _⟩
  · unfold headerAt
    omega
  · unfold optionalAt headerAt fileHeaderSize
    omega

theorem readLayout_through (file : Buffer) :
    GoesThrough (declared file) (headerConditions file) (readLayout file) := by
  obtain ⟨header, optional, short, few⟩ := places_reach file
  have near : signatureAt file + 4 ≤ wordLimit := Nat.le_trans header (by decide)
  unfold readLayout
  refine unless_through decide_eq_true_iff rfl fun dosHeader => ?_
  refine unless_through beq_iff_eq rfl fun dosMagic => ?_
  refine inFile_through near fun signatureInside => ?_
  refine unless_through beq_iff_eq rfl fun signature => ?_
  refine inFile_through (by unfold wordLimit; omega) fun fileHeader => ?_
  refine unless_through (by rw [Bool.or_eq_true, beq_iff_eq, beq_iff_eq]; exact Iff.rfl) rfl fun machine => ?_
  refine unless_through decide_eq_true_iff rfl fun optionalLarge => ?_
  refine inFile_through (by unfold wordLimit; omega) fun optionalInside => ?_
  refine unless_through beq_iff_eq rfl fun optionalMagic => ?_
  refine unless_through bne_iff_ne rfl fun nonempty => ?_
  refine unless_through decide_eq_true_iff rfl fun headersFit => ?_
  refine unless_through isPowerOfTwo_iff rfl fun alignment => ?_
  dsimp only
  split
  · next counted =>
      have counted : relocationIndex < directoryCount file := counted
      have inside := directory_inside optionalInside counted
      have reach : directoryAt file + directorySize ≤ wordLimit := by
        simp only [directoryAt, directorySize, relocationIndex, optionalHeaderSize, wordLimit]
        omega
      refine .pass (inFile_of_inside reach inside) ?_
      refine inFile_through (by unfold wordLimit; omega) fun table => ?_
      rw [declared, if_pos counted]
      rfl
  · next uncounted =>
      have uncounted : ¬ relocationIndex < directoryCount file := uncounted
      refine inFile_through (by unfold wordLimit; omega) fun table => ?_
      rw [declared, if_neg uncounted]
      rfl

theorem accepted_iff (file : Buffer) :
    (∀ condition ∈ headerConditions file, condition.holds) ↔ Accepted file := by
  unfold headerConditions
  simp only [List.forall_mem_cons]
  constructor
  · intro ⟨dosHeader, dosMagic, signatureInside, signature, fileHeader, machine, optionalLarge, optionalInside,
      optionalMagic, nonempty, headersFit, alignment, sectionTable, _⟩
    exact ⟨dosHeader, dosMagic, signatureInside, signature, fileHeader, machine, optionalLarge, optionalInside,
      optionalMagic, nonempty, headersFit, isPowerOfTwo_iff.mpr alignment, sectionTable⟩
  · intro accepted
    exact ⟨accepted.dosHeader, accepted.dosMagic, accepted.signatureInside, accepted.signature,
      accepted.fileHeader, accepted.machine, accepted.optionalLarge, accepted.optionalInside, accepted.optionalMagic,
      accepted.nonempty, accepted.headersFit, isPowerOfTwo_iff.mp accepted.alignment, accepted.sectionTable,
      List.forall_mem_nil _⟩

theorem readLayout_eq_ok_iff {file : Buffer} {layout : Layout} :
    readLayout file = .ok layout ↔ Accepted file ∧ layout = declared file := by
  rw [(readLayout_through file).eq_ok_iff, accepted_iff]

end Conditions

end EfiHandoff.Image
