import EfiHandoff.Proofs.DevicePath.RecoveredNames

/-!
# The file part of a path

A walk that is started again behind some nodes of a path meets the others, each as much earlier as bytes were left out.
So what a path holds from its first file path node on is a path itself.
-/

set_option autoImplicit false

namespace EfiHandoff.DevicePath

/-- The same node in a path whose first `start` bytes are left out. -/
def Node.lowered (start : Nat) (node : Node) : Node := { node with offset := node.offset - start }

theorem Node.isFilePath_iff {node : Node} : node.isFilePath = true ↔ node.type = 0x04 ∧ node.subtype = 0x04 := by
  simp [isFilePath, mediaType, filePathSubtype]

section Restart

variable {start offset : Nat} {path : Bytes} {nodes before after : List Node}

private theorem encoded_lowered (start : Nat) (nodes : List Node) :
    (nodes.map (Node.lowered start)).flatMap Node.encode = nodes.flatMap Node.encode := by
  rw [List.flatMap_map]
  rfl

private theorem Placed.lowered (placed : Placed (start + offset) nodes) :
    Placed offset (nodes.map (Node.lowered start)) := by
  induction nodes generalizing offset with
  | nil => exact trivial
  | cons node nodes ih =>
      obtain ⟨here, inner, small, behind⟩ := placed
      refine ⟨?_, inner, small, ih (by rwa [← Nat.add_assoc])⟩
      rw [Node.lowered, here, Nat.add_sub_cancel_left]

private theorem Placed.offset_le (placed : Placed offset nodes) : ∀ node ∈ nodes, offset ≤ node.offset := by
  induction nodes generalizing offset with
  | nil => exact List.forall_mem_nil _
  | cons node nodes ih =>
      obtain ⟨here, -, -, behind⟩ := placed
      refine List.forall_mem_cons.mpr ⟨Nat.le_of_eq here.symm, fun other member => ?_⟩
      exact Nat.le_trans (Nat.le_add_right _ _) (ih behind other member)

/-- A walk stays in step when it is started again behind nodes it met: no byte of theirs is looked at. -/
theorem walk_drop (walked : walk path = ⟨before ++ after, none⟩) :
    totalSize before ≤ path.length ∧ (∀ node ∈ after, totalSize before ≤ node.offset) ∧
      walk (path.drop (totalSize before)) = ⟨after.map (Node.lowered (totalSize before)), none⟩ := by
  obtain ⟨placed, rest, written, ends⟩ := walkFrom_exact walked
  obtain ⟨-, behind⟩ := placed_append.mp placed
  rw [Nat.zero_add] at behind
  rw [List.flatMap_append, List.append_assoc] at written
  have split : path.drop (totalSize before) =
      (after.map (Node.lowered (totalSize before))).flatMap Node.encode ++ rest := by
    rw [written, ← length_encoded, List.drop_left, encoded_lowered]
  refine ⟨?_, behind.offset_le, ?_⟩
  · rw [written, List.length_append, length_encoded]
    exact Nat.le_add_right _ _
  · rw [walk, split]
    refine walkFrom_placed (Placed.lowered behind) ?_
    cases ends with
    | ended long => exact .ended long

end Restart

section FirstFilePath

variable {limit : MemoryLimit} {device path built : Bytes} {name : List Char} {nodes : List Node}

theorem namesOf_eq_nil_iff : namesOf nodes = [] ↔ nodes.find? Node.isFilePath = none := by
  simp [namesOf]

/-- The path of a file names a file where its device does first, and behind its device if that names none. -/
theorem firstFilePath_ofFile (made : ofFile limit device name = .ok built) :
    ∃ size, sizeWithoutEnd device = .ok size ∧ firstFilePath built =
      .ok (some ((((walk device).nodes.find? Node.isFilePath).map Node.offset).getD size)) := by
  obtain ⟨directory, file, nodes, -, walked, -, directoryFits, fileFits, rfl⟩ := ofFile_eq_ok_iff.mp made
  refine ⟨totalSize nodes, sizeWithoutEnd_eq_ok_iff.mpr ⟨nodes, walked, rfl⟩, ?_⟩
  rw [firstFilePath_of_walked (walk_written (placed_filePath walked directoryFits fileFits)), walked, List.find?_append]
  cases nodes.find? Node.isFilePath with
  | none => rfl
  | some node => rfl

end FirstFilePath

/-- Where a path without fault first names a file, if it names one at all, another path begins: a walk from there meets
the nodes that are left. The path that is built for a file names one, and does so right behind its device unless the
device names a file itself. -/
theorem firstFilePath_begins_path :
    (∀ path nodes, walk path = ⟨nodes, none⟩ →
      (∃ found, firstFilePath path = .ok found) ∧
      (firstFilePath path = .ok none ↔ components path = .ok []) ∧
      ∀ offset, firstFilePath path = .ok (some offset) →
        ∃ before node after, nodes = before ++ node :: after ∧
          (∀ other ∈ before, ¬ (other.type = 0x04 ∧ other.subtype = 0x04)) ∧
          node.type = 0x04 ∧ node.subtype = 0x04 ∧ node.offset = offset ∧ offset ≤ path.length ∧
          (∀ other ∈ node :: after, offset ≤ other.offset) ∧
          walk (path.drop offset) = ⟨(node :: after).map (Node.lowered offset), none⟩) ∧
    ∀ limit device name built, ofFile limit device name = .ok built →
      ∃ offset size, firstFilePath built = .ok (some offset) ∧ sizeWithoutEnd device = .ok size ∧
        ((∀ node ∈ (walk device).nodes, ¬ (node.type = 0x04 ∧ node.subtype = 0x04)) → offset = size) := by
  constructor
  · intro path nodes walked
    have found := firstFilePath_of_walked walked
    refine ⟨⟨_, found⟩, ?_, ?_⟩
    · rw [found, components_of_walked walked, Except.ok.injEq, Except.ok.injEq, namesOf_eq_nil_iff,
        Option.map_eq_none_iff]
    · intro offset first
      rw [found, Except.ok.injEq] at first
      obtain ⟨node, met, rfl⟩ := Option.map_eq_some_iff.mp first
      obtain ⟨named, before, after, rfl, unnamed⟩ := List.find?_eq_some_iff_append.mp met
      obtain ⟨type, subtype⟩ := Node.isFilePath_iff.mp named
      have here : node.offset = totalSize before := by
        obtain ⟨place, -⟩ := (placed_append.mp (walkFrom_exact walked).1).2
        rwa [Nat.zero_add] at place
      obtain ⟨inside, behind, tail⟩ := walk_drop walked
      rw [← here] at inside behind tail
      refine ⟨before, node, after, rfl, fun other member other_named => ?_, type, subtype, rfl, inside, behind, tail⟩
      simpa [Node.isFilePath_iff.mpr other_named] using unnamed other member
  · intro limit device name built made
    obtain ⟨size, sized, found⟩ := firstFilePath_ofFile made
    refine ⟨_, size, found, sized, fun unnamed => ?_⟩
    have none : (walk device).nodes.find? Node.isFilePath = none := by
      rw [List.find?_eq_none]
      exact fun node member named => unnamed node member (Node.isFilePath_iff.mp named)
    rw [none]
    rfl

def disguisedPath : Bytes :=
  [1, 1, 8, 0, 0x7f, 0xff, 4, 0] ++ [4, 4, 9, 0, 4, 4, 4, 0, 5] ++ [3, 1, 8, 0, 0x7f, 0xff, 4, 0] ++ endNode

/-- A device whose only payload looks like an end node and a node that names a file. -/
def disguisedDevice : Bytes := [1, 1, 12, 0, 0x7f, 0xff, 4, 0, 4, 4, 4, 0] ++ endNode

theorem firstFilePath_begins_path_disguised :
    firstFilePath disguisedPath = .ok (some 8) ∧
      walk (disguisedPath.drop 8) = ⟨[⟨4, 4, 0, [4, 4, 4, 0, 5]⟩, ⟨3, 1, 9, [0x7f, 0xff, 4, 0]⟩], none⟩ ∧
      ∃ built, ofFile none disguisedDevice ['/', 'a'] = .ok built ∧ firstFilePath built = .ok (some 12) := by
  obtain ⟨whole, made⟩ := firstFilePath_begins_path
  have walked : walk disguisedPath = ⟨[⟨1, 1, 0, [0x7f, 0xff, 4, 0]⟩, ⟨4, 4, 8, [4, 4, 4, 0, 5]⟩,
      ⟨3, 1, 17, [0x7f, 0xff, 4, 0]⟩], none⟩ := by decide +kernel
  have first : firstFilePath disguisedPath = .ok (some 8) := by
    rw [firstFilePath_of_walked walked]
    rfl
  refine ⟨first, ?_, ?_⟩
  · obtain ⟨before, node, after, split, -, -, -, here, -, -, tail⟩ := (whole _ _ walked).2.2 8 first
    match before, split with
    | [], split =>
        cases split
        cases here
    | [_], split =>
        cases split
        exact tail
    | [_, _], split =>
        cases split
        cases here
    | _ :: _ :: _ :: _, split => simp at split
  · have walked : walk disguisedDevice = ⟨[⟨1, 1, 0, [0x7f, 0xff, 4, 0, 4, 4, 4, 0]⟩], none⟩ := by decide +kernel
    obtain ⟨built, ended⟩ : ∃ built, ofFile none disguisedDevice ['/', 'a'] = .ok built :=
      ⟨_, ofFile_eq_ok_iff.mpr ⟨[], ['a'], _, rfl, walked, rfl, by decide, by decide, rfl⟩⟩
    obtain ⟨offset, size, found, sized, bare⟩ := made _ _ _ _ ended
    obtain rfl : size = 12 := Except.ok.inj (sized.symm.trans (sizeWithoutEnd_eq_ok_iff.mpr ⟨_, walked, rfl⟩))
    obtain rfl := bare (by rw [walked]; decide)
    exact ⟨built, ended, found⟩

end EfiHandoff.DevicePath
