import EfiHandoff.Image.Blueprint
import EfiHandoff.Proofs.Image.Headers
import EfiHandoff.Proofs.Written

/-!
# The headers of a built image

Where the parts of a built file stand, and that its headers are read as they were planned.
-/

set_option autoImplicit false

namespace EfiHandoff.Image

section Rounding

theorem le_roundUp (value : Nat) {unit : Nat} (positive : 0 < unit) : value ≤ roundUp value unit := by
  have whole := Nat.div_add_mod (value + unit - 1) unit
  have rest := Nat.mod_lt (value + unit - 1) positive
  unfold roundUp
  rw [Nat.mul_comm]
  omega

private theorem roundUp_lt (value : Nat) {unit : Nat} (positive : 0 < unit) : roundUp value unit < value + unit := by
  have whole := Nat.div_mul_le_self (value + unit - 1) unit
  unfold roundUp
  omega

theorem fileAlignment_pos : 0 < fileAlignment := by decide

end Rounding

namespace Blueprint

variable {plan : Blueprint} {file : Buffer} {start : Nat}

theorem length_padded (size : Nat) (bytes : Bytes) : (padded size bytes).length = size := by
  unfold padded
  rw [List.length_append, List.length_take, List.length_replicate]
  omega

theorem holds_of_padded {size : Nat} {bytes : Bytes} (holds : file.Holds start (padded size bytes))
    (fits : bytes.length ≤ size) : file.Holds start bytes := by
  unfold padded at holds
  rw [List.take_of_length_le fits] at holds
  exact (Buffer.holds_append.mp holds).1

theorem number_of_padded {size width value : Nat} (holds : file.Holds start (padded size (Bytes.ofNat width value)))
    (fits : width ≤ size) (small : value < 256 ^ width) : file.word start width = value :=
  (holds_of_padded holds (by rwa [Bytes.length_ofNat])).number small

section Sizes

private theorem length_dosHeader : dosHeader.length = dosHeaderSize := by decide

private theorem length_fileHeader (plan : Blueprint) : plan.fileHeader.length = 4 + fileHeaderSize := by
  simp [fileHeader, length_padded, Bytes.length_ofNat, fileHeaderSize]

private theorem length_optionalHeader (plan : Blueprint) : plan.optionalHeader.length = optionalHeaderSize := by
  simp [optionalHeader, length_padded, Bytes.length_ofNat, optionalHeaderSize]

private theorem length_directories (plan : Blueprint) : plan.directories.length = builtDirectories * directorySize := by
  simp [directories, length_padded, relocationIndex, directorySize, builtDirectories]

theorem length_sectionHeader (part : PlannedSection) (rawOffset : Nat) :
    (sectionHeader part rawOffset).length = sectionHeaderSize := by
  simp [sectionHeader, length_padded, Bytes.length_ofNat, sectionHeaderSize]

/-- Sections without data take up no room. -/
theorem rawOffsetsFrom_cons (filled : Nat) (part : PlannedSection) (rest : List PlannedSection) :
    rawOffsetsFrom filled (part :: rest) = (if part.data.isEmpty then 0 else filled) ::
      rawOffsetsFrom (filled + roundUp part.data.size fileAlignment) rest := by
  rw [rawOffsetsFrom]
  split
  · next empty =>
      rw [Array.isEmpty_iff_size_eq_zero.mp empty]
      rfl
  · rfl

theorem length_rawOffsetsFrom (filled : Nat) (parts : List PlannedSection) :
    (rawOffsetsFrom filled parts).length = parts.length := by
  induction parts generalizing filled with
  | nil => rfl
  | cons part rest ih => rw [rawOffsetsFrom_cons, List.length_cons, ih, List.length_cons]

private theorem length_sectionHeaders (parts : List PlannedSection) (offsets : List Nat)
    (paired : offsets.length = parts.length) :
    (List.zipWith sectionHeader parts offsets).flatten.length = sectionHeaderSize * parts.length := by
  induction parts generalizing offsets with
  | nil => rfl
  | cons part rest ih =>
      cases offsets with
      | nil => cases paired
      | cons offset others =>
          rw [List.zipWith_cons_cons, List.flatten_cons, List.length_append, length_sectionHeader,
            ih others (Nat.succ.inj paired), List.length_cons, Nat.mul_succ, Nat.add_comm]

private theorem length_headers (plan : Blueprint) : plan.headers.length = plan.headersSize := length_padded _ _

theorem sectionTable_le (plan : Blueprint) :
    builtSectionTable + sectionHeaderSize * plan.allSections.length ≤ plan.headersSize :=
  le_roundUp _ fileAlignment_pos

end Sizes

section Places

theorem build_holds (plan : Blueprint) :
    plan.build.file.Holds 0 plan.headers ∧
      plan.build.file.Holds plan.headersSize (plan.allSections.flatMap sectionData) := by
  have holds := Buffer.holds_append.mp (Buffer.holds_toArray (plan.headers ++ plan.allSections.flatMap sectionData))
  rwa [length_headers, Nat.zero_add] at holds

theorem size_build (plan : Blueprint) :
    plan.build.file.size = plan.headersSize + (plan.allSections.flatMap sectionData).length := by
  rw [build, List.size_toArray, List.length_append, length_headers]

private theorem length_sectionTable (plan : Blueprint) :
    (List.zipWith sectionHeader plan.allSections plan.rawOffsets).flatten.length =
      sectionHeaderSize * plan.allSections.length :=
  length_sectionHeaders _ _ (length_rawOffsetsFrom _ _)

/-- The headers stand one behind the other at the start of the file. -/
structure HeadersWritten (plan : Blueprint) (file : Buffer) : Prop where
  dosHeader : file.Holds 0 dosHeader
  fileHeader : file.Holds builtSignature plan.fileHeader
  optionalHeader : file.Holds (builtSignature + 4 + fileHeaderSize) plan.optionalHeader
  directories : file.Holds (builtSignature + 4 + fileHeaderSize + optionalHeaderSize) plan.directories
  sectionHeaders : file.Holds builtSectionTable
    (List.zipWith sectionHeader plan.allSections plan.rawOffsets).flatten

theorem build_headersWritten (plan : Blueprint) : plan.HeadersWritten plan.build.file := by
  have whole := (build_holds plan).1
  unfold headers at whole
  have fits := sectionTable_le plan
  have parts := holds_of_padded whole (by
    simp only [List.length_append, length_dosHeader, length_fileHeader, length_optionalHeader, length_directories,
      length_sectionTable]
    exact fits)
  simp only [Buffer.holds_append, List.length_append, length_dosHeader, length_fileHeader, length_optionalHeader,
    length_directories] at parts
  obtain ⟨⟨⟨⟨dosHeader, fileHeader⟩, optionalHeader⟩, directories⟩, sectionHeaders⟩ := parts
  exact ⟨dosHeader, fileHeader, optionalHeader, directories, sectionHeaders⟩

end Places

structure Encodable (plan : Blueprint) : Prop where
  machine : plan.machine = machineAmd64 ∨ plan.machine = machineArm64
  alignment : isPowerOfTwo plan.alignment = true
  count : plan.allSections.length < 0x10000
  ends : ∀ part ∈ plan.sections, part.virtualAddress.toNat + part.virtualSize.toNat < 0x100000000
  table : plan.fixups ≠ [] →
    roundUp (max plan.declaredEnd plan.alignment.toNat) plan.alignment.toNat < 0x100000000
  imageSize : plan.imageSize < 0x100000000
  data : ∀ part ∈ plan.sections, part.data.size < 0x100000000
  offsets : ∀ offset ∈ plan.rawOffsets, offset < 0x100000000

/-- What is planned can be written down: machine and alignment are accepted, and the numbers of the headers fit into
their fields. Sections may lie anywhere. -/
structure Recordable (plan : Blueprint) : Prop where
  machine : plan.machine = machineAmd64 ∨ plan.machine = machineArm64
  alignment : isPowerOfTwo plan.alignment = true
  count : plan.allSections.length < 0x10000
  imageSize : plan.imageSize < 0x100000000
  data : ∀ part ∈ plan.sections, part.data.size < 0x100000000
  offsets : ∀ offset ∈ plan.rawOffsets, offset < 0x100000000

theorem Encodable.recordable (encodable : plan.Encodable) : plan.Recordable where
  machine := encodable.machine
  alignment := encodable.alignment
  count := encodable.count
  imageSize := encodable.imageSize
  data := encodable.data
  offsets := encodable.offsets

def layout (plan : Blueprint) : Layout where
  preferredBase := plan.imageBase
  imageSize := UInt64.ofNat plan.imageSize
  entry := UInt64.ofNat plan.entry.toNat
  headersSize := UInt64.ofNat plan.headersSize
  sectionCount := UInt16.ofNat plan.allSections.length
  sectionTable := UInt64.ofNat builtSectionTable
  relocations := plan.relocations
  directoryCount := UInt64.ofNat builtDirectories
  alignment := plan.alignment

section Fields

theorem alignment_pos (power : isPowerOfTwo plan.alignment = true) : 0 < plan.alignment.toNat := by
  refine Nat.pos_of_ne_zero fun zero => ?_
  have zero : plan.alignment = 0 := UInt32.toNat_inj.mp zero
  rw [zero] at power
  cases power

theorem Recordable.headersSize_le (recordable : plan.Recordable) : plan.headersSize ≤ plan.imageSize :=
  Nat.le_trans (Nat.le_max_right _ _) (le_roundUp _ (alignment_pos recordable.alignment))

structure Fields (plan : Blueprint) (file : Buffer) : Prop where
  dosMagic : file.word 0 2 = dosMagic
  signatureAt : file.word 0x3c 4 = builtSignature
  signature : file.word 0x40 4 = signatureMagic
  machine : file.word 0x44 2 = plan.machine.toNat
  count : file.word 0x46 2 = plan.allSections.length
  optionalSize : file.word 0x54 2 = builtOptionalSize
  optionalMagic : file.word 0x58 2 = optionalMagic
  entry : file.word 0x68 4 = plan.entry.toNat
  imageBase : file.word 0x70 8 = plan.imageBase.toNat
  alignment : file.word 0x78 4 = plan.alignment.toNat
  imageSize : file.word 0x90 4 = plan.imageSize
  headersSize : file.word 0x94 4 = plan.headersSize
  directoryCount : file.word 0xc4 4 = builtDirectories
  relocationStart : file.word 0xf0 4 = plan.relocations.start.toNat
  relocationSize : file.word 0xf4 4 = plan.relocations.size.toNat

theorem HeadersWritten.fields (written : plan.HeadersWritten file) (recordable : plan.Recordable) :
    plan.Fields file := by
  obtain ⟨dosHeader, fileHeader, optionalHeader, directories, -⟩ := written
  unfold Blueprint.dosHeader at dosHeader
  unfold Blueprint.fileHeader at fileHeader
  unfold Blueprint.optionalHeader at optionalHeader
  unfold Blueprint.directories at directories
  simp only [Buffer.holds_append, List.length_append, Bytes.length_ofNat, length_padded]
    at dosHeader fileHeader optionalHeader directories
  obtain ⟨dosMagic, signatureAt⟩ := dosHeader
  obtain ⟨⟨⟨⟨⟨signature, machine⟩, count⟩, -⟩, optionalSize⟩, -⟩ := fileHeader
  obtain ⟨⟨⟨⟨⟨⟨⟨⟨optionalMagic, entry⟩, imageBase⟩, alignment⟩, -⟩, imageSize⟩, headersSize⟩, -⟩, directoryCount⟩ :=
    optionalHeader
  obtain ⟨-, relocations⟩ := directories
  have relocations := holds_of_padded relocations
    (by rw [List.length_append, Bytes.length_ofNat, Bytes.length_ofNat]; decide)
  rw [Buffer.holds_append, Bytes.length_ofNat] at relocations
  obtain ⟨relocationStart, relocationSize⟩ := relocations
  have wide (value : UInt32) : value.toNat < 256 ^ 4 := value.toNat_lt
  exact {
    dosMagic := number_of_padded dosMagic (by decide) (by decide)
    signatureAt := signatureAt.number (by decide)
    signature := signature.number (by decide)
    machine := machine.number plan.machine.toNat_lt
    count := count.number recordable.count
    optionalSize := optionalSize.number (by decide)
    optionalMagic := number_of_padded optionalMagic (by decide) (by decide)
    entry := number_of_padded entry (by decide) (wide _)
    imageBase := imageBase.number plan.imageBase.toNat_lt
    alignment := alignment.number (wide _)
    imageSize := imageSize.number recordable.imageSize
    headersSize := number_of_padded headersSize (by decide)
      (Nat.lt_of_le_of_lt recordable.headersSize_le recordable.imageSize)
    directoryCount := directoryCount.number (by decide)
    relocationStart := relocationStart.number (wide _)
    relocationSize := relocationSize.number (wide _) }

namespace Fields

variable (fields : plan.Fields file)

include fields

theorem headerAt : Image.headerAt file = 0x44 := by
  rw [Image.headerAt, Image.signatureAt, fields.signatureAt]
  rfl

theorem optionalAt : Image.optionalAt file = 0x58 := by
  rw [Image.optionalAt, fields.headerAt]
  rfl

private theorem optionalLength : Image.optionalSize file = builtOptionalSize := by
  rw [Image.optionalSize, fields.headerAt]
  exact fields.optionalSize

theorem counted : Image.directoryCount file = builtDirectories := by
  rw [Image.directoryCount, fields.optionalAt, fields.optionalLength, fields.directoryCount]
  decide

theorem directoryAt : Image.directoryAt file = 0xf0 := by
  rw [Image.directoryAt, fields.optionalAt]
  rfl

theorem sectionCount : Image.sectionCount file = UInt16.ofNat plan.allSections.length := by
  rw [Image.sectionCount, fields.headerAt, fields.count]

theorem declared : Image.declared file = plan.layout := by
  unfold Image.declared layout
  rw [fields.counted, fields.sectionCount, fields.directoryAt, fields.optionalAt, fields.optionalLength]
  simp only [fields.entry, fields.imageBase, fields.alignment, fields.imageSize, fields.headersSize,
    fields.relocationStart, fields.relocationSize, UInt64.ofNat_toNat, UInt32.ofNat_toNat]
  rfl

end Fields

end Fields

section Sections

def relocationSection (plan : Blueprint) : PlannedSection :=
  ⟨".reloc".toUTF8.data.toList, plan.relocationStart, UInt32.ofNat plan.relocationTable.length,
    plan.relocationTable.toArray⟩

theorem allSections_eq (plan : Blueprint) :
    plan.relocationTable = [] ∧ plan.allSections = plan.sections ∨
      plan.relocationTable ≠ [] ∧ plan.allSections = plan.sections ++ [plan.relocationSection] := by
  unfold allSections
  cases table : plan.relocationTable with
  | nil => exact .inl ⟨rfl, rfl⟩
  | cons byte rest =>
      refine .inr ⟨List.cons_ne_nil _ _, ?_⟩
      unfold relocationSection
      rw [table]
      rfl

theorem mem_allSections {part : PlannedSection} : part ∈ plan.allSections ↔
    part ∈ plan.sections ∨ plan.relocationTable ≠ [] ∧ part = plan.relocationSection := by
  rcases plan.allSections_eq with ⟨empty, declared⟩ | ⟨filled, extended⟩
  · rw [declared]
    exact (or_iff_left fun ⟨filled, _⟩ => filled empty).symm
  · rw [extended, List.mem_append, List.mem_singleton]
    exact or_congr_right (and_iff_right filled).symm

theorem imageEnd_le (recordable : plan.Recordable) : plan.imageEnd ≤ plan.imageSize :=
  Nat.le_trans (Nat.le_max_left _ _) (le_roundUp _ (alignment_pos recordable.alignment))

theorem imageEnd_of_table (filled : plan.relocationTable ≠ []) :
    plan.imageEnd = plan.relocationStart.toNat + plan.relocationTable.length := by
  rw [imageEnd, if_neg (by simpa using filled)]

theorem Recordable.allData (recordable : plan.Recordable) {part : PlannedSection} (member : part ∈ plan.allSections) :
    part.data.size < 0x100000000 := by
  rcases mem_allSections.mp member with declared | ⟨filled, rfl⟩
  · exact recordable.data part declared
  · have inside := imageEnd_le recordable
    have small := recordable.imageSize
    rw [imageEnd_of_table filled] at inside
    rw [relocationSection, List.size_toArray]
    omega

theorem length_sectionData (part : PlannedSection) :
    (sectionData part).length = roundUp part.data.size fileAlignment := length_padded _ _

/-- A file whose offsets fit into their fields is not much larger than the last of them. -/
theorem filled_le {parts : List PlannedSection} {filled : Nat} (low : filled ≤ 0x200000200)
    (offsets : ∀ offset ∈ rawOffsetsFrom filled parts, offset < 0x100000000)
    (data : ∀ part ∈ parts, part.data.size < 0x100000000) :
    filled + (parts.flatMap sectionData).length ≤ 0x200000200 := by
  induction parts generalizing filled with
  | nil => exact low
  | cons part rest ih =>
      obtain ⟨small, others⟩ := List.forall_mem_cons.mp data
      rw [rawOffsetsFrom_cons] at offsets
      obtain ⟨first, later⟩ := List.forall_mem_cons.mp offsets
      rw [List.flatMap_cons, List.length_append, length_sectionData, ← Nat.add_assoc]
      refine ih ?_ later others
      have rounded := roundUp_lt part.data.size fileAlignment_pos
      split at first
      · next empty =>
          rw [Array.isEmpty_iff_size_eq_zero.mp empty]
          exact low
      · simp only [fileAlignment] at rounded ⊢
        omega

theorem size_build_le (recordable : plan.Recordable) : plan.build.file.size ≤ wordLimit := by
  have headers := recordable.headersSize_le
  have small := recordable.imageSize
  have bounded := filled_le (by omega) recordable.offsets fun part => recordable.allData
  rw [size_build]
  exact Nat.le_trans bounded (by decide)

end Sections

theorem Fields.accepted (fields : plan.Fields file) (recordable : plan.Recordable)
    (room : builtSectionTable + sectionHeaderSize * plan.allSections.length ≤ file.size) : Accepted file := by
  have table : builtSectionTable = 328 := rfl
  have optional : builtOptionalSize = 240 := rfl
  have imageSize : file.word (0x58 + 56) 4 = plan.imageSize := fields.imageSize
  have headersSize : file.word (0x58 + 60) 4 = plan.headersSize := fields.headersSize
  have alignment : file.word (0x58 + 32) 4 = plan.alignment.toNat := fields.alignment
  have fits := recordable.headersSize_le
  have headers := sectionTable_le plan
  refine ⟨?_, fields.dosMagic, ?_, ?_, ?_, ?_, ?_, ?_, ?_, ?_, ?_, ?_, ?_⟩
  · unfold dosHeaderSize
    omega
  · rw [Image.signatureAt, fields.signatureAt, builtSignature]
    omega
  · rw [Image.signatureAt, fields.signatureAt]
    exact fields.signature
  · rw [fields.headerAt, fileHeaderSize]
    omega
  · rw [fields.headerAt, fields.machine, UInt16.ofNat_toNat]
    exact recordable.machine
  · rw [fields.optionalLength]
    decide
  · rw [fields.optionalAt, fields.optionalLength]
    omega
  · rw [fields.optionalAt]
    exact fields.optionalMagic
  · rw [fields.optionalAt, imageSize]
    omega
  · rw [fields.optionalAt, headersSize, imageSize]
    exact fits
  · rw [fields.optionalAt, alignment, UInt32.ofNat_toNat]
    exact recordable.alignment
  · rw [fields.optionalAt, fields.optionalLength, fields.sectionCount, UInt16.toNat_ofNat_of_lt' recordable.count,
      Nat.mul_comm]
    omega

/-- The headers of a built file are read as they were planned. -/
theorem readLayout_build (recordable : plan.Recordable) : readLayout plan.build.file = .ok plan.layout := by
  have fields := (build_headersWritten plan).fields recordable
  have room : builtSectionTable + sectionHeaderSize * plan.allSections.length ≤ plan.build.file.size := by
    rw [size_build]
    exact Nat.le_trans (sectionTable_le plan) (Nat.le_add_right _ _)
  exact readLayout_eq_ok_iff.mpr
    ⟨fields.accepted recordable room, fields.declared.symm⟩

end Blueprint

end EfiHandoff.Image
