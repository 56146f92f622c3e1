import EfiHandoff.Proofs.DevicePath.FilePathBytes

/-!
# The names that are read back

The names in the device path of a file are the names in the path of its device and, behind them, directory and file name
in the spelling of the firmware, each up to its first NUL.
-/

set_option autoImplicit false

namespace EfiHandoff.DevicePath

variable {limit : MemoryLimit} {device built : Bytes} {path directory file : List Char} {nodes : List Node}

private theorem Named.slashless {path : List Char} (named : Named directory file path) : '/' ∉ file := by
  cases named with
  | plain _ last => exact last
  | onDevice _ last => exact last

private theorem map_backslashed {name : List Char} (flat : '/' ∉ name) : name.map backslashed = name := by
  induction name with
  | nil => rfl
  | cons char name ih =>
      simp only [List.mem_cons, not_or] at flat
      have kept : backslashed char = char := if_neg (Ne.symm flat.1)
      rw [List.map_cons, kept, ih flat.2]

def namesOf (nodes : List Node) : List (List Char) :=
  (nodes.filter Node.isFilePath).map fun node => nameOf node.payload

theorem components_of_walked (walked : walk device = ⟨nodes, none⟩) : components device = .ok (namesOf nodes) := by
  unfold components
  rw [walked]
  rfl

private theorem namesOf_append (first second : List Node) :
    namesOf (first ++ second) = namesOf first ++ namesOf second := by
  simp [namesOf]

private theorem namesOf_fileNodes (offset : Nat) (directory file : List Char) :
    namesOf (fileNodes offset directory file) =
      [(directory.map backslashed).takeWhile (· ≠ '\x00'), (file.map backslashed).takeWhile (· ≠ '\x00')] := by
  have named (offset : Nat) (name : List Char) : (nameNode offset name).isFilePath = true := rfl
  simp only [namesOf, fileNodes, List.filter_cons, named, if_true, List.filter_nil, List.map_cons, List.map_nil,
    nameOf_nameNode]

/-- A device path that was built for a file is read back as the names of its device, the directory and the file name,
the latter two with backslashes and up to their first NUL. A path without a NUL gives both in full. -/
theorem components_ofFile (made : ofFile limit device path = .ok built) :
    ∃ directory file names, Named directory file path ∧ components device = .ok names ∧
      components built = .ok (names ++
        [(directory.map backslashed).takeWhile (· ≠ '\x00'), (file.map backslashed).takeWhile (· ≠ '\x00')]) ∧
      ('\x00' ∉ path → components built = .ok (names ++ [directory.map backslashed, file])) := by
  obtain ⟨directory, file, nodes, split, walked, -, directoryFits, fileFits, rfl⟩ := ofFile_eq_ok_iff.mp made
  have named := splitPath_named split
  have met := walk_written (placed_filePath walked directoryFits fileFits)
  have read := components_of_walked met
  rw [namesOf_append, namesOf_fileNodes] at read
  refine ⟨directory, file, namesOf nodes, named, components_of_walked walked, read, ?_⟩
  intro inner
  obtain ⟨inDirectory, inFile⟩ := named.withoutNul inner
  rw [read, takeWhile_backslashed inDirectory, takeWhile_backslashed inFile, map_backslashed named.slashless]

def namingDevice : Bytes := [4, 4, 9, 0, 0x76, 0, 0x34, 0xd8, 7, 1, 1, 5, 0, 0, 0x7f, 0xff, 6, 0, 1, 2]

/-- A directory with a NUL in its middle, and a file named by one character of two units. -/
def cutPath : List Char := ['d', ')', '/', 'a', '\x00', 'b', '/', '𝄞']

/-- The device gives its own name, where U+FFFD stands for a surrogate without its partner. -/
theorem components_ofFile_cut :
    ∃ built, ofFile none namingDevice cutPath = .ok built ∧
      components built = .ok [['v', '\uFFFD'], ['\\', 'a'], ['𝄞']] := by
  have walked : walk namingDevice = ⟨[⟨4, 4, 0, [0x76, 0, 0x34, 0xd8, 7]⟩, ⟨1, 1, 9, [0]⟩], none⟩ := by decide +kernel
  obtain ⟨built, made⟩ : ∃ built, ofFile none namingDevice cutPath = .ok built :=
    ⟨_, ofFile_eq_ok_iff.mpr ⟨['/', 'a', '\x00', 'b'], ['𝄞'], _, rfl, walked, rfl, by decide, by decide, rfl⟩⟩
  refine ⟨built, made, ?_⟩
  obtain ⟨directory, file, names, named, found, read, -⟩ := components_ofFile made
  obtain ⟨rfl, rfl⟩ := Prod.mk.inj (Except.ok.inj (named.splitPath.symm.trans rfl))
  obtain rfl : names = [['v', '\uFFFD']] := by
    rw [components_of_walked walked] at found
    exact (Except.ok.inj found).symm
  exact read

end EfiHandoff.DevicePath
