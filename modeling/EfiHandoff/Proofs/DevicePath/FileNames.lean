import EfiHandoff.Proofs.DevicePath.Walk
import EfiHandoff.Proofs.Text.Utf16
import Mathlib.Data.List.TakeWhile

/-!
# The names in a file path

How a textual path is taken apart, what its parts are in UTF-16, and that a device path is built exactly when the
parts fit. The nodes of the device stand in it in front of the two that name directory and file.
-/

set_option autoImplicit false

namespace EfiHandoff.DevicePath

/-- Firmware separates names by backslashes. -/
def backslashed (char : Char) : Char := if char = '/' then '\\' else char

def nameNode (offset : Nat) (name : List Char) : Node :=
  ⟨mediaType, filePathSubtype, offset, Utf16.toBytes (nameUnits name)⟩

def fileNodes (offset : Nat) (directory file : List Char) : List Node :=
  [nameNode offset directory, nameNode (offset + (nameNode offset directory).size) file]

/-- A textual path by its parts. Its device name ends at its first closing parenthesis, and its file name starts
behind its last slash. -/
inductive Named (directory file : List Char) : List Char → Prop where
  | plain (whole : ')' ∉ directory ++ '/' :: file) (last : '/' ∉ file) :
      Named directory file (directory ++ '/' :: file)
  | onDevice {device : List Char} (first : ')' ∉ device) (last : '/' ∉ file) :
      Named directory file (device ++ ')' :: (directory ++ '/' :: file))

section Splitting

/-- A text that is cut at the first separator, or has none. -/
theorem cut_cases (separator : Char) (text : List Char) :
    (text.dropWhile (· ≠ separator) = [] ∧ separator ∉ text) ∨
      ∃ rest, text.dropWhile (· ≠ separator) = separator :: rest ∧
        text = text.takeWhile (· ≠ separator) ++ separator :: rest ∧
          separator ∉ text.takeWhile (· ≠ separator) := by
  have before : separator ∉ text.takeWhile (· ≠ separator) := by
    intro member
    simpa using List.mem_takeWhile_imp member
  have split := List.takeWhile_append_dropWhile (p := (· ≠ separator)) (l := text)
  cases behind : text.dropWhile (· ≠ separator) with
  | nil =>
      rw [behind, List.append_nil] at split
      exact .inl ⟨rfl, split ▸ before⟩
  | cons char rest =>
      have first := List.head?_dropWhile_not (· ≠ separator) text
      rw [behind] at split first
      obtain rfl : char = separator := by simpa using first
      exact .inr ⟨rest, rfl, split.symm, before⟩

theorem withoutDevice_cases (path : List Char) :
    (withoutDevice path = path ∧ ')' ∉ path) ∨
      ∃ device, path = device ++ ')' :: withoutDevice path ∧ ')' ∉ device := by
  unfold withoutDevice
  rcases cut_cases ')' path with ⟨behind, unnamed⟩ | ⟨rest, behind, split, before⟩
  · rw [behind]
    exact .inl ⟨rfl, unnamed⟩
  · rw [behind]
    exact .inr ⟨_, split, before⟩

private theorem splitLast?_some {path directory file : List Char} (split : splitLast? path = some (directory, file)) :
    path = directory ++ '/' :: file ∧ '/' ∉ file := by
  unfold splitLast? at split
  rcases cut_cases '/' path.reverse with ⟨behind, -⟩ | ⟨before, behind, whole, after⟩
  · rw [behind] at split
    cases split
  · rw [behind] at split
    cases split
    refine ⟨?_, by simpa using after⟩
    simpa using congrArg List.reverse whole

theorem splitPath_ok {path directory file : List Char} (split : splitPath path = .ok (directory, file)) :
    withoutDevice path = directory ++ '/' :: file ∧ '/' ∉ file := by
  unfold splitPath at split
  cases parts : splitLast? (withoutDevice path) with
  | none =>
      rw [parts] at split
      cases split
  | some found =>
      rw [parts] at split
      obtain rfl := Except.ok.inj split
      exact splitLast?_some parts

theorem splitPath_named {path directory file : List Char} (split : splitPath path = .ok (directory, file)) :
    Named directory file path := by
  obtain ⟨parts, last⟩ := splitPath_ok split
  rcases withoutDevice_cases path with ⟨whole, unnamed⟩ | ⟨device, whole, first⟩
  · rw [parts] at whole
    rw [← whole] at unnamed ⊢
    exact .plain unnamed last
  · rw [parts] at whole
    rw [whole]
    exact .onDevice first last

theorem Named.withoutNul {path directory file : List Char} (named : Named directory file path)
    (inner : '\x00' ∉ path) : '\x00' ∉ directory ∧ '\x00' ∉ file := by
  cases named <;> simp at inner <;> simp [inner]

end Splitting

section Units

private theorem encodeChar_backslashed (char : Char) :
    (Utf16.encodeChar char).map (fun unit => if unit = 0x2f then 0x5c else unit) =
      Utf16.encodeChar (backslashed char) := by
  unfold backslashed
  by_cases slash : char = '/'
  · subst slash
    rfl
  · have units : ∀ unit ∈ Utf16.encodeChar char, unit ≠ 0x2f := Utf16.encodeChar_ne rfl (by decide) slash
    rw [if_neg slash]
    exact (List.map_congr_left fun unit member => if_neg (units unit member)).trans (List.map_id _)

theorem nameUnits_eq (name : List Char) :
    nameUnits name = Utf16.encode (name.map backslashed) ++ [0] := by
  unfold nameUnits Utf16.encode
  rw [List.map_flatMap, List.flatMap_map]
  simp only [encodeChar_backslashed]

/-- The name behind a directory and the one of a file in it, joined as firmware joins them. -/
theorem nameUnits_joined (directory file : List Char) :
    nameUnits (directory ++ '/' :: file) =
      Utf16.encode (directory.map backslashed) ++ 0x5c :: nameUnits file := by
  rw [nameUnits_eq, nameUnits_eq, List.map_append, Utf16.encode_append, List.append_assoc]
  rfl

/-- Up to its first NUL, a name is read as it was written, with backslashes. -/
theorem decode_nameUnits (name : List Char) :
    Utf16.decode (Utf16.untilNul (nameUnits name)) = (name.map backslashed).takeWhile (· ≠ '\x00') := by
  rw [nameUnits_eq, Utf16.untilNul_encode, Utf16.decode_encode]

private theorem backslashed_eq_nul {char : Char} : backslashed char = '\x00' ↔ char = '\x00' := by
  unfold backslashed
  split
  · next slash =>
      subst slash
      decide
  · exact Iff.rfl

/-- A name without a NUL is read in full. -/
theorem takeWhile_backslashed {name : List Char} (inner : '\x00' ∉ name) :
    (name.map backslashed).takeWhile (· ≠ '\x00') = name.map backslashed := by
  rw [List.takeWhile_eq_self_iff]
  intro char member
  obtain ⟨original, found, rfl⟩ := List.mem_map.mp member
  refine decide_eq_true fun nul => inner ?_
  rwa [← backslashed_eq_nul.mp nul]

theorem nameOf_nameNode (offset : Nat) (name : List Char) :
    nameOf (nameNode offset name).payload = (name.map backslashed).takeWhile (· ≠ '\x00') := by
  unfold nameOf nameNode
  rw [Utf16.ofBytes_toBytes, decode_nameUnits]

end Units

section Building

variable {limit : MemoryLimit} {device built : Bytes} {path directory file : List Char} {nodes : List Node}
  {offset : Nat}

theorem size_nameNode (offset : Nat) (name : List Char) :
    (nameNode offset name).size = headerSize + 2 * (nameUnits name).length :=
  congrArg (headerSize + ·) (Utf16.length_toBytes (nameUnits name))

theorem componentNode_eq_ok_iff {name : List Char} {node : Node} :
    componentNode offset name = .ok node ↔
      (nameNode offset name).size < nodeSizeLimit ∧ node = nameNode offset name := by
  unfold componentNode
  dsimp only
  rw [size_nameNode]
  split
  · next fits =>
      constructor
      · intro made
        exact ⟨fits, (Except.ok.inj made).symm⟩
      · intro assumed
        exact congrArg Except.ok assumed.2.symm
  · next long => exact ⟨nofun, fun assumed => absurd assumed.1 long⟩

theorem placed_fileNodes (directoryFits : (nameNode offset directory).size < nodeSizeLimit)
    (fileFits : (nameNode offset file).size < nodeSizeLimit) :
    Placed offset (fileNodes offset directory file) := by
  rw [size_nameNode] at fileFits
  refine ⟨rfl, rfl, directoryFits, rfl, rfl, ?_, trivial⟩
  rwa [size_nameNode]

theorem placed_filePath (walked : walk device = ⟨nodes, none⟩)
    (directoryFits : (nameNode (totalSize nodes) directory).size < nodeSizeLimit)
    (fileFits : (nameNode (totalSize nodes) file).size < nodeSizeLimit) :
    Placed 0 (nodes ++ fileNodes (totalSize nodes) directory file) := by
  refine placed_append.mpr ⟨(take_walked walked).1, ?_⟩
  rw [Nat.zero_add]
  exact placed_fileNodes directoryFits fileFits

/-- A device path is built exactly for a path with a directory, on a device with a path of its own, with the
memory that is asked for, and with parts that fit into a node each. -/
theorem ofFile_eq_ok_iff :
    ofFile limit device path = .ok built ↔
      ∃ directory file nodes, splitPath path = .ok (directory, file) ∧ walk device = ⟨nodes, none⟩ ∧
        limit.grants (reservation (totalSize nodes) directory file) = true ∧
        (nameNode (totalSize nodes) directory).size < nodeSizeLimit ∧
        (nameNode (totalSize nodes) file).size < nodeSizeLimit ∧
        built = (nodes ++ fileNodes (totalSize nodes) directory file).flatMap Node.encode ++ endNode := by
  constructor
  · intro assumed
    obtain ⟨⟨directory, file⟩, split, sizing⟩ := bind_eq_ok_iff.mp assumed
    obtain ⟨devicePart, sized, naming⟩ := bind_eq_ok_iff.mp sizing
    obtain ⟨nodes, walked, rfl⟩ := sizeWithoutEnd_eq_ok_iff.mp (mapError_eq_ok_iff.mp sized)
    dsimp only at naming
    split at naming
    · cases naming
    next granted =>
      obtain ⟨directoryNode, inDirectory, naming⟩ := bind_eq_ok_iff.mp naming
      obtain ⟨fileNode, inFile, ended⟩ := bind_eq_ok_iff.mp naming
      obtain ⟨directoryFits, rfl⟩ := componentNode_eq_ok_iff.mp inDirectory
      obtain ⟨fileFits, rfl⟩ := componentNode_eq_ok_iff.mp inFile
      obtain rfl := Except.ok.inj ended
      refine ⟨directory, file, nodes, split, walked, by simpa using granted, directoryFits, ?_, ?_⟩
      · rw [size_nameNode] at fileFits ⊢
        exact fileFits
      · simp [(take_walked walked).2, fileNodes]
  · intro assumed
    obtain ⟨directory, file, nodes, split, walked, granted, directoryFits, fileFits, rfl⟩ := assumed
    have sized : sizeWithoutEnd device = .ok (totalSize nodes) := sizeWithoutEnd_eq_ok_iff.mpr ⟨nodes, walked, rfl⟩
    refine bind_eq_ok_iff.mpr ⟨(directory, file), split, bind_eq_ok_iff.mpr
      ⟨totalSize nodes, mapError_eq_ok_iff.mpr sized, ?_⟩⟩
    dsimp only
    rw [granted]
    refine bind_eq_ok_iff.mpr ⟨_, componentNode_eq_ok_iff.mpr ⟨directoryFits, rfl⟩, bind_eq_ok_iff.mpr
      ⟨nameNode (totalSize nodes + (nameNode (totalSize nodes) directory).size) file,
        componentNode_eq_ok_iff.mpr ⟨?_, rfl⟩, ?_⟩⟩
    · rw [size_nameNode] at fileFits ⊢
      exact fileFits
    · simp [(take_walked walked).2, fileNodes, pure, Except.pure]

theorem ofFile_ok (assumed : ofFile limit device path = .ok built) :
    ∃ nodes, Placed 0 nodes ∧ (∃ node ∈ nodes, node.isFilePath = true) ∧
      built = nodes.flatMap Node.encode ++ endNode := by
  obtain ⟨directory, file, nodes, -, walked, -, directoryFits, fileFits, rfl⟩ := ofFile_eq_ok_iff.mp assumed
  refine ⟨_, placed_filePath walked directoryFits fileFits, ?_, rfl⟩
  exact ⟨nameNode (totalSize nodes) directory, by simp [fileNodes], rfl⟩

end Building

end EfiHandoff.DevicePath
