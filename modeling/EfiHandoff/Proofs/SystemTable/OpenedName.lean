import EfiHandoff.Proofs.DevicePath.FileNames
import EfiHandoff.Proofs.SystemTable.Lookups

/-!
# The file that is opened

A path is looked up on a volume by one name, and is made into two nodes of a device path. Both leave out the device
name in front and write backslashes for slashes, so that they name one file.
-/

set_option autoImplicit false

namespace EfiHandoff

open SystemTable

def SystemTable.Call.openedName : SystemTable.Call → Option (List UInt16)
  | .openFile _ name _ _ => some name
  | _ => none

private theorem SystemTable.Call.Measures.opensNothing {file : UInt64} {call : SystemTable.Call}
    (measures : call.Measures file) : call.openedName = none := by
  cases call <;> first | rfl | exact measures.elim

theorem Volume.failure?_eq_none_iff {status : Status} : failure? status = none ↔ status.isSuccess = true := by
  unfold failure?
  split <;> simp [*]

/-- On a volume that opens one file is opened, by the name that the path has there. -/
theorem Volume.openPath_names {volume : Volume} {path : List Char} {history : History systemTable}
    {result : Except FileError OpenFile} (follows : (volume.openPath path).Follows history result) :
    ∃ root later, history = ⟨.openVolume volume.fileSystem, root⟩ :: later ∧
      later.filterMap (fun exchange => exchange.call.openedName) =
        if root.status.isSuccess then [fileName path] else [] := by
  obtain ⟨root, later, rfl, opening⟩ := Program.follows_ask.mp follows
  refine ⟨root, later, rfl, ?_⟩
  cases failed : failure? root.status with
  | some error =>
      rw [failed] at opening
      obtain ⟨rfl, -⟩ := opening
      rw [if_neg fun succeeded => nomatch failed.symm.trans (failure?_eq_none_iff.mpr succeeded)]
      rfl
  | none =>
      rw [failed] at opening
      obtain ⟨file, later, rfl, closing⟩ := Program.follows_ask.mp opening
      have unopened : ∀ exchange ∈ later, exchange.call.openedName = none := by
        refine Program.Confined.history
          (?_ : Program.Confined (fun call : SystemTable.Call => call.openedName = none) _) closing
        refine Program.Confined.bind ⟨rfl, fun _ => trivial⟩ fun _ => ?_
        by_cases missing : file.status = .notFound
        · rw [if_pos missing]
          trivial
        · rw [if_neg missing]
          cases failure? file.status with
          | some error => trivial
          | none => exact (measure_measures _).mono fun _ => SystemTable.Call.Measures.opensNothing
      rw [if_pos (failure?_eq_none_iff.mp failed), ← List.filterMap_eq_nil_iff.mpr unopened]
      rfl

section Agreement

open DevicePath

variable {limit : MemoryLimit} {device : Bytes} {path directory file : List Char} {nodes : List Node}

/-- The name that a file is opened by is made of the two names that its device path ends with, and a path without a
NUL is read alike in both. -/
theorem openPath_agrees_with_ofFile (split : splitPath path = .ok (directory, file))
    (walked : walk device = ⟨nodes, none⟩)
    (granted : limit.grants (reservation (totalSize nodes) directory file) = true)
    (directoryFits : headerSize + 2 * (nameUnits directory).length < nodeSizeLimit)
    (fileFits : headerSize + 2 * (nameUnits file).length < nodeSizeLimit) :
    Named directory file path ∧
      ∃ built directoryNode fileNode directoryUnits fileUnits,
        ofFile limit device path = .ok built ∧
        walk built = ⟨nodes ++ [directoryNode, fileNode], none⟩ ∧
        directoryNode.isFilePath = true ∧ fileNode.isFilePath = true ∧
        directoryNode.payload = Utf16.toBytes (directoryUnits ++ [0]) ∧
        fileNode.payload = Utf16.toBytes (fileUnits ++ [0]) ∧
        (∀ (volume : Volume) history result, (volume.openPath path).Follows history result →
          ∃ root later, history = ⟨.openVolume volume.fileSystem, root⟩ :: later ∧
            later.filterMap (fun exchange => exchange.call.openedName) =
              if root.status.isSuccess then [directoryUnits ++ 0x5c :: (fileUnits ++ [0])] else []) ∧
        ('\x00' ∉ path →
          nameOf directoryNode.payload = directory.map backslashed ∧
          nameOf fileNode.payload = file.map backslashed ∧
          Utf16.decode (Utf16.untilNul (directoryUnits ++ 0x5c :: (fileUnits ++ [0]))) =
            directory.map backslashed ++ '\\' :: file.map backslashed) := by
  have named := splitPath_named split
  have built := ofFile_eq_ok_iff.mpr
    ⟨directory, file, nodes, split, walked, granted, by rwa [size_nameNode], by rwa [size_nameNode], rfl⟩
  have placed : Placed 0 (nodes ++ fileNodes (totalSize nodes) directory file) := by
    refine placed_append.mpr ⟨(take_walked walked).1, ?_⟩
    rw [Nat.zero_add]
    exact placed_fileNodes (by rwa [size_nameNode]) (by rwa [size_nameNode])
  have joined : Volume.fileName path =
      Utf16.encode (directory.map backslashed) ++ 0x5c :: (Utf16.encode (file.map backslashed) ++ [0]) := by
    rw [Volume.fileName, (splitPath_ok split).1, nameUnits_joined, nameUnits_eq]
  refine ⟨named, _, _, _, Utf16.encode (directory.map backslashed), Utf16.encode (file.map backslashed), built,
    walk_written placed, rfl, rfl, congrArg Utf16.toBytes (nameUnits_eq directory),
    congrArg Utf16.toBytes (nameUnits_eq file), ?_, ?_⟩
  · intro volume history result follows
    rw [← joined]
    exact Volume.openPath_names follows
  · intro inner
    obtain ⟨inDirectory, inFile⟩ := named.withoutNul inner
    refine ⟨?_, ?_, ?_⟩
    · rw [nameOf_nameNode, takeWhile_backslashed inDirectory]
    · rw [nameOf_nameNode, takeWhile_backslashed inFile]
    · have whole : '\x00' ∉ directory ++ '/' :: file := by simp [inDirectory, inFile]
      rw [← joined, Volume.fileName, (splitPath_ok split).1, decode_nameUnits, takeWhile_backslashed whole,
        List.map_append, List.map_cons]
      rfl

def namedDevice : List Node := [nameNode 0 ['v']]

/-- A path with two closing parentheses, slashes in a row and a character beyond the basic plane. -/
def slashedPath : List Char := ['h', 'd', ')', '/', 'b', ')', '/', '/', '/', '𐍈', '.', 'e']

theorem openPath_agrees_with_ofFile_slashed :
    ∃ built directoryNode fileNode,
      ofFile none (namedDevice.flatMap Node.encode ++ endNode) slashedPath = .ok built ∧
      walk built = ⟨namedDevice ++ [directoryNode, fileNode], none⟩ ∧
      nameOf directoryNode.payload = ['\\', 'b', ')', '\\', '\\'] ∧
      nameOf fileNode.payload = ['𐍈', '.', 'e'] := by
  have agrees := @openPath_agrees_with_ofFile none (namedDevice.flatMap Node.encode ++ endNode) slashedPath
    ['/', 'b', ')', '/', '/'] ['𐍈', '.', 'e'] namedDevice rfl
    (walk_written ⟨rfl, rfl, by decide, trivial⟩) rfl (by decide) (by decide)
  obtain ⟨-, built, directoryNode, fileNode, _, _, made, walked, -, -, -, -, -, read⟩ := agrees
  obtain ⟨inDirectory, inFile, -⟩ := read (by decide)
  exact ⟨built, directoryNode, fileNode, made, walked, inDirectory, inFile⟩

end Agreement

end EfiHandoff
