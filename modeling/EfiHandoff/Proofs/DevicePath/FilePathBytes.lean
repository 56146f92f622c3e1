import EfiHandoff.Proofs.DevicePath.FileNames

/-!
# The bytes of a file path

Where there is memory for it, the device path of a file is built or refused by what its text, its device and the lengths
of its names say, and what is built is known byte by byte.
-/

set_option autoImplicit false

namespace EfiHandoff.DevicePath

/-- A textual path without a slash behind its device name, which ends at its first closing parenthesis. -/
inductive Flat : List Char → Prop where
  | plain {path : List Char} (whole : ')' ∉ path) (flat : '/' ∉ path) : Flat path
  | onDevice {device rest : List Char} (first : ')' ∉ device) (flat : '/' ∉ rest) : Flat (device ++ ')' :: rest)

def unitCount (name : List Char) : Nat := (Utf16.encode name).length

/-- What follows the header of a node that names a file: the name in UTF-16, closed by a NUL. -/
def namePayload (name : List Char) : Bytes := Utf16.toBytes (Utf16.encode (name.map backslashed) ++ [0])

def nameRecord (name : List Char) : Bytes :=
  [0x04, 0x04] ++ Bytes.ofNat 2 (4 + 2 * (unitCount name + 1)) ++ namePayload name

/-- The device path of a file, on a device whose path has `size` bytes in front of its end. -/
def filePathBytes (device : Bytes) (size : Nat) (directory file : List Char) : Bytes :=
  device.take size ++ nameRecord directory ++ nameRecord file ++ [0x7f, 0xff, 0x04, 0x00]

/-- What becomes of a file path. Of several things that are wrong, the first of these is reported. -/
inductive FilePathVerdict (device : Bytes) : List Char → Except BootError Bytes → Prop where
  | flat {path : List Char} (flat : Flat path) : FilePathVerdict device path (.error .pathWithoutDirectory)
  | device {path directory file : List Char} {fault : WalkFault} (named : Named directory file path)
      (stopped : (walk device).fault = some fault) : FilePathVerdict device path (.error (Fault.error fault))
  | tooLong {path directory file : List Char} (named : Named directory file path) (ended : (walk device).fault = none)
      (long : 32764 < unitCount directory ∨ 32764 < unitCount file) :
      FilePathVerdict device path (.error .componentTooLong)
  | built {path directory file : List Char} {size : Nat} (named : Named directory file path)
      (sized : sizeWithoutEnd device = .ok size) (directoryFits : unitCount directory ≤ 32764)
      (fileFits : unitCount file ≤ 32764) :
      FilePathVerdict device path (.ok (filePathBytes device size directory file))

section Splitting

variable {path device rest directory file : List Char}

private theorem withoutDevice_of_whole (whole : ')' ∉ path) : withoutDevice path = path := by
  rcases withoutDevice_cases path with ⟨same, -⟩ | ⟨device, split, -⟩
  · exact same
  · rw [split] at whole
    simp at whole

private theorem withoutDevice_onDevice (first : ')' ∉ device) : withoutDevice (device ++ ')' :: rest) = rest := by
  have before : ∀ char ∈ device, decide (char ≠ ')') = true := fun char member =>
    decide_eq_true fun same => first (same ▸ member)
  unfold withoutDevice
  rw [List.dropWhile_append_of_pos before]
  rfl

private theorem splitLast?_of_last (last : '/' ∉ file) :
    splitLast? (directory ++ '/' :: file) = some (directory, file) := by
  have before : ∀ char ∈ file.reverse, decide (char ≠ '/') = true := fun char member =>
    decide_eq_true fun same => last (List.mem_reverse.mp (same ▸ member))
  unfold splitLast?
  rw [List.reverse_append, List.reverse_cons, List.append_assoc, List.dropWhile_append_of_pos before,
    List.takeWhile_append_of_pos before]
  simp

theorem splitLast?_eq_none_iff : splitLast? path = none ↔ '/' ∉ path := by
  unfold splitLast?
  rcases cut_cases '/' path.reverse with ⟨behind, flat⟩ | ⟨before, behind, whole, -⟩
  · rw [behind]
    exact iff_of_true rfl fun slash => flat (List.mem_reverse.mpr slash)
  · have slash : '/' ∈ path := by
      rw [← List.mem_reverse, whole]
      simp
    rw [behind]
    exact iff_of_false nofun (not_not.mpr slash)

theorem Named.splitPath (named : Named directory file path) : splitPath path = .ok (directory, file) := by
  unfold DevicePath.splitPath
  cases named with
  | plain whole last => rw [withoutDevice_of_whole whole, splitLast?_of_last last]
  | onDevice first last => rw [withoutDevice_onDevice first, splitLast?_of_last last]

theorem Flat.splitPath (flat : Flat path) : splitPath path = .error (.noDirectory (withoutDevice path)) := by
  have none : splitLast? (withoutDevice path) = none := by
    cases flat with
    | plain whole flat => rw [withoutDevice_of_whole whole, splitLast?_eq_none_iff.mpr flat]
    | onDevice first flat => rw [withoutDevice_onDevice first, splitLast?_eq_none_iff.mpr flat]
  unfold DevicePath.splitPath
  rw [none]

theorem named_or_flat (path : List Char) : (∃ directory file, Named directory file path) ∨ Flat path := by
  cases split : DevicePath.splitPath path with
  | ok parts => exact .inl ⟨parts.1, parts.2, splitPath_named split⟩
  | error fault =>
      have flat : '/' ∉ withoutDevice path := by
        unfold DevicePath.splitPath at split
        cases found : splitLast? (withoutDevice path) with
        | none => exact splitLast?_eq_none_iff.mp found
        | some parts =>
            rw [found] at split
            cases split
      rcases withoutDevice_cases path with ⟨same, whole⟩ | ⟨device, cut, first⟩
      · rw [same] at flat
        exact .inr (.plain whole flat)
      · rw [cut]
        exact .inr (.onDevice first flat)

end Splitting

section Building

variable {limit : MemoryLimit} {device : Bytes} {path directory file name : List Char} {size offset : Nat}
  {outcome : Except BootError Bytes}

theorem length_nameUnits (name : List Char) : (nameUnits name).length = unitCount name + 1 := by
  unfold nameUnits unitCount
  rw [List.length_append, List.length_map, List.length_singleton]

private theorem payload_nameNode : (nameNode offset name).payload = namePayload name :=
  congrArg Utf16.toBytes (nameUnits_eq name)

theorem encode_nameNode : (nameNode offset name).encode = nameRecord name := by
  unfold Node.encode nameRecord
  rw [size_nameNode, length_nameUnits, payload_nameNode]
  rfl

theorem nameNode_fits_iff : (nameNode offset name).size < nodeSizeLimit ↔ unitCount name ≤ 32764 := by
  rw [size_nameNode, length_nameUnits]
  unfold headerSize nodeSizeLimit
  omega

private theorem componentNode_of_long (long : 32764 < unitCount name) :
    componentNode offset name = .error (.tooLong (unitCount name + 1)) := by
  unfold componentNode headerSize nodeSizeLimit
  dsimp only
  rw [length_nameUnits, if_neg (by omega)]

private theorem sizeWithoutEnd_of_ended (ended : (walk device).fault = none) :
    sizeWithoutEnd device = .ok (totalSize (walk device).nodes) := by
  unfold sizeWithoutEnd Walk.complete
  rw [ended]
  rfl

private theorem sizeWithoutEnd_of_stopped {fault : WalkFault} (stopped : (walk device).fault = some fault) :
    sizeWithoutEnd device = .error fault := by
  unfold sizeWithoutEnd Walk.complete
  rw [stopped]
  rfl

theorem filePathBytes_eq {nodes : List Node} (walked : walk device = ⟨nodes, none⟩) :
    filePathBytes device (totalSize nodes) directory file =
      (nodes ++ fileNodes (totalSize nodes) directory file).flatMap Node.encode ++ endNode := by
  unfold filePathBytes fileNodes
  rw [(take_walked walked).2, List.flatMap_append, List.flatMap_cons, List.flatMap_cons, List.flatMap_nil,
    List.append_nil, encode_nameNode, encode_nameNode, List.append_assoc (List.flatMap _ _)]
  rfl

private theorem componentNode_of_fits (fits : unitCount name ≤ 32764) :
    componentNode offset name = .ok (nameNode offset name) :=
  componentNode_eq_ok_iff.mpr ⟨nameNode_fits_iff.mpr fits, rfl⟩

/-- Behind the text and the device, the memory is looked at first, and then the lengths of the names. -/
theorem ofFile_of_named (named : Named directory file path) (sized : sizeWithoutEnd device = .ok size) :
    ofFile limit device path =
      if !limit.grants (reservation size directory file) then .error (.refused (reservation size directory file))
      else if 32764 < unitCount directory then .error (.tooLong (unitCount directory + 1))
      else if 32764 < unitCount file then .error (.tooLong (unitCount file + 1))
      else .ok (filePathBytes device size directory file) := by
  unfold ofFile
  rw [named.splitPath, sized]
  dsimp only [bind, Except.bind, Except.mapError]
  cases granted : limit.grants (reservation size directory file) with
  | false => rfl
  | true =>
      rw [Bool.not_true, if_neg Bool.false_ne_true, if_neg Bool.false_ne_true]
      dsimp only [pure, Except.pure]
      by_cases long : 32764 < unitCount directory
      · rw [componentNode_of_long long, if_pos long]
      · rw [componentNode_of_fits (Nat.le_of_not_lt long), if_neg long]
        dsimp only
        by_cases long : 32764 < unitCount file
        · rw [componentNode_of_long long, if_pos long]
        · rw [componentNode_of_fits (Nat.le_of_not_lt long), if_neg long]
          dsimp only
          rw [encode_nameNode, encode_nameNode]
          rfl

/-- The memory that is asked for, once it is known how much that is, is granted. -/
def Granted (limit : MemoryLimit) (device : Bytes) (path : List Char) : Prop :=
  ∀ directory file size, Named directory file path → sizeWithoutEnd device = .ok size →
    limit.grants (reservation size directory file) = true

theorem FilePathVerdict.ofFile (granted : Granted limit device path) (verdict : FilePathVerdict device path outcome) :
    Fault.simplify (DevicePath.ofFile limit device path) = outcome := by
  cases verdict with
  | flat flat =>
      unfold DevicePath.ofFile
      rw [flat.splitPath]
      rfl
  | device named stopped =>
      unfold DevicePath.ofFile
      rw [named.splitPath, sizeWithoutEnd_of_stopped stopped]
      rfl
  | @tooLong directory file named ended long =>
      have sized := sizeWithoutEnd_of_ended ended
      rw [ofFile_of_named named sized, granted _ _ _ named sized, Bool.not_true, if_neg Bool.false_ne_true]
      by_cases early : 32764 < unitCount directory
      · rw [if_pos early]
        rfl
      · rw [if_neg early, if_pos (long.resolve_left early)]
        rfl
  | built named sized directoryFits fileFits =>
      rw [ofFile_of_named named sized, granted _ _ _ named sized, Bool.not_true, if_neg Bool.false_ne_true,
        if_neg (Nat.not_lt.mpr directoryFits), if_neg (Nat.not_lt.mpr fileFits)]
      rfl

private theorem filePathVerdict_exists (device : Bytes) (path : List Char) :
    ∃ outcome, FilePathVerdict device path outcome := by
  rcases named_or_flat path with ⟨directory, file, named⟩ | flat
  · cases walked : (walk device).fault with
    | some fault => exact ⟨_, .device named walked⟩
    | none =>
        by_cases long : 32764 < unitCount directory ∨ 32764 < unitCount file
        · exact ⟨_, .tooLong named walked long⟩
        · exact ⟨_, .built named (sizeWithoutEnd_of_ended walked) (by omega) (by omega)⟩
  · exact ⟨_, .flat flat⟩

theorem walk_filePathBytes (sized : sizeWithoutEnd device = .ok size) (directoryFits : unitCount directory ≤ 32764)
    (fileFits : unitCount file ≤ 32764) :
    walk (filePathBytes device size directory file) =
        ⟨(walk device).nodes ++ [⟨0x04, 0x04, size, namePayload directory⟩,
          ⟨0x04, 0x04, size + (4 + 2 * (unitCount directory + 1)), namePayload file⟩], none⟩ ∧
      ∃ whole, sizeWithoutEnd (filePathBytes device size directory file) = .ok whole ∧
        whole + 4 = (filePathBytes device size directory file).length := by
  obtain ⟨nodes, walked, rfl⟩ := sizeWithoutEnd_eq_ok_iff.mp sized
  have names : fileNodes (totalSize nodes) directory file = [⟨0x04, 0x04, totalSize nodes, namePayload directory⟩,
      ⟨0x04, 0x04, totalSize nodes + (4 + 2 * (unitCount directory + 1)), namePayload file⟩] := by
    unfold fileNodes
    rw [size_nameNode, length_nameUnits]
    unfold nameNode namePayload
    rw [nameUnits_eq, nameUnits_eq]
    rfl
  have placed := placed_filePath walked (nameNode_fits_iff.mpr directoryFits) (nameNode_fits_iff.mpr fileFits)
  have met := walk_written placed
  rw [filePathBytes_eq walked, met, walked, ← names]
  refine ⟨rfl, _, sizeWithoutEnd_eq_ok_iff.mpr ⟨_, met, rfl⟩, ?_⟩
  rw [List.length_append, length_encoded]
  rfl

end Building

/-- The device path of a file, byte by byte. With the memory for it, how building it goes is known from the text, the
device and the lengths of the names alone, and what is built reads back as the nodes of the device and the two names. -/
theorem ofFile_byte_exact (limit : MemoryLimit) (device : Bytes) (path : List Char)
    (granted : Granted limit device path) :
    (∀ outcome, Fault.simplify (ofFile limit device path) = outcome ↔ FilePathVerdict device path outcome) ∧
    ∀ built, ofFile limit device path = .ok built → ∃ directory file size, Named directory file path ∧
      sizeWithoutEnd device = .ok size ∧
      walk built = ⟨(walk device).nodes ++ [⟨0x04, 0x04, size, namePayload directory⟩,
        ⟨0x04, 0x04, size + (4 + 2 * (unitCount directory + 1)), namePayload file⟩], none⟩ ∧
      ∃ whole, sizeWithoutEnd built = .ok whole ∧ whole + 4 = built.length := by
  have decides (outcome : Except BootError Bytes) :
      Fault.simplify (ofFile limit device path) = outcome ↔ FilePathVerdict device path outcome := by
    refine ⟨fun ends => ?_, fun verdict => verdict.ofFile granted⟩
    obtain ⟨known, verdict⟩ := filePathVerdict_exists device path
    rw [← ends, verdict.ofFile granted]
    exact verdict
  refine ⟨decides, fun built made => ?_⟩
  cases (decides _).mp (Fault.simplify_eq_ok_iff.mpr made) with
  | built named sized directoryFits fileFits =>
      exact ⟨_, _, _, named, sized, walk_filePathBytes sized directoryFits fileFits⟩

/-- A node of five bytes, an end that declares nine, and two bytes that nobody reads. -/
def clefDevice : Bytes := [1, 1, 5, 0, 7, 0x7f, 0xff, 9, 0, 3, 4]

/-- A file that is named by one character of two units, in a directory with another closing parenthesis. -/
def clefPath : List Char := ['(', 'd', ')', 'a', ')', '/', 'b', '/', Char.ofNat 0x1d11e]

theorem ofFile_byte_exact_clef :
    Granted none clefDevice clefPath ∧ Fault.simplify (ofFile none clefDevice clefPath) = .ok
      ([1, 1, 5, 0, 7] ++ [4, 4, 14, 0, 97, 0, 41, 0, 92, 0, 98, 0, 0, 0] ++
        [4, 4, 10, 0, 0x34, 0xd8, 0x1e, 0xdd, 0, 0] ++ [0x7f, 0xff, 4, 0]) := by
  have granted : Granted none clefDevice clefPath := fun _ _ _ _ _ => rfl
  have named : Named ['a', ')', '/', 'b'] [Char.ofNat 0x1d11e] clefPath :=
    @Named.onDevice _ _ ['(', 'd'] (by decide) (by decide)
  have sized : sizeWithoutEnd clefDevice = .ok 5 := by decide +kernel
  have built := ((ofFile_byte_exact none clefDevice clefPath granted).1 _).mpr
    (.built named sized (by decide) (by decide))
  exact ⟨granted, built.trans (by decide +kernel)⟩

end EfiHandoff.DevicePath
