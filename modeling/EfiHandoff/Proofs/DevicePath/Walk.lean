import EfiHandoff.DevicePath.FilePath

/-!
# Walks and the nodes they meet

A walk meets the nodes that were written, and what a walk met can be written down again, up to the bytes it ends
at. A path whose nodes name a file has a tail that starts with that name.
-/

set_option autoImplicit false

namespace EfiHandoff.DevicePath

/-- Nodes that stand one behind the other from `offset` on, each with a length that fits, and none an end. -/
def Placed (offset : Nat) : List Node → Prop
  | [] => True
  | node :: rest =>
      node.offset = offset ∧ node.isEnd = false ∧ node.size < nodeSizeLimit ∧
        Placed (offset + node.size) rest

/-- How a walk ends at the bytes it has come to, `offset` bytes into a path of `total` bytes. -/
inductive Ends (total offset : Nat) : Bytes → Option WalkFault → Prop where
  | ended {low high : UInt8} {after : Bytes} (long : headerSize ≤ low.toNat + 256 * high.toNat) :
      Ends total offset (endType :: endEntireSubtype :: low :: high :: after) none
  | missing {rest : Bytes} (short : rest.length < headerSize) :
      Ends total offset rest (some (.missingEnd total))
  /-- What the type says does not matter here, not even that of an end node. -/
  | malformed {type subtype low high : UInt8} {after : Bytes}
      (short : low.toNat + 256 * high.toNat < headerSize) :
      Ends total offset (type :: subtype :: low :: high :: after)
        (some (.malformed offset (low.toNat + 256 * high.toNat)))
  | overrun {type subtype low high : UInt8} {after : Bytes}
      (inner : ¬ (type = endType ∧ subtype = endEntireSubtype))
      (beyond : headerSize + after.length < low.toNat + 256 * high.toNat) :
      Ends total offset (type :: subtype :: low :: high :: after)
        (some (.overrun offset (low.toNat + 256 * high.toNat) total))

section Words

theorem length_field {size : Nat} (small : size < nodeSizeLimit) :
    (UInt8.ofNat size).toNat + 256 * (UInt8.ofNat (size / 256)).toNat = size := by
  rw [UInt8.toNat_ofNat', UInt8.toNat_ofNat']
  unfold nodeSizeLimit at small
  omega

theorem ofNat_length_field (low high : UInt8) :
    Bytes.ofNat 2 (low.toNat + 256 * high.toNat) = [low, high] := by
  have lower : UInt8.ofNat (low.toNat + 256 * high.toNat) = low := by
    apply UInt8.toNat_inj.mp
    have := low.toNat_lt
    rw [UInt8.toNat_ofNat']
    omega
  have upper : UInt8.ofNat ((low.toNat + 256 * high.toNat) / 256) = high := by
    apply UInt8.toNat_inj.mp
    have := low.toNat_lt
    have := high.toNat_lt
    rw [UInt8.toNat_ofNat']
    omega
  rw [Bytes.ofNat, Bytes.ofNat, Bytes.ofNat, lower, upper]

end Words

section Checks

variable {ε φ α β : Type}

theorem bind_eq_ok_iff {checked : Except ε α} {next : α → Except ε β} {result : β} :
    (checked >>= next) = .ok result ↔ ∃ value, checked = .ok value ∧ next value = .ok result := by
  cases checked with
  | error => exact ⟨nofun, nofun⟩
  | ok value => exact ⟨fun same => ⟨value, rfl, same⟩, fun ⟨_, rfl, same⟩ => same⟩

theorem mapError_eq_ok_iff {checked : Except ε α} {rename : ε → φ} {result : α} :
    checked.mapError rename = .ok result ↔ checked = .ok result := by
  cases checked with
  | error fault =>
      constructor
      · intro same
        cases same
      · intro same
        cases same
  | ok value =>
      constructor
      · intro same
        rw [Except.ok.inj same]
      · intro same
        rw [Except.ok.inj same]
        rfl

end Checks

section Walking

variable {total offset : Nat} {node : Node} {nodes first second : List Node} {bytes rest : Bytes}
  {fault : Option WalkFault}

theorem Node.length_encode (node : Node) : node.encode.length = node.size := by
  simp [encode, size, Bytes.length_ofNat, headerSize]
  omega

theorem length_encoded (nodes : List Node) : (nodes.flatMap Node.encode).length = totalSize nodes := by
  induction nodes with
  | nil => rfl
  | cons node nodes ih => rw [List.flatMap_cons, List.length_append, node.length_encode, ih, totalSize]

theorem placed_append : Placed offset (first ++ second) ↔
    Placed offset first ∧ Placed (offset + totalSize first) second := by
  induction first generalizing offset with
  | nil => simp [Placed, totalSize]
  | cons node first ih => simp only [List.cons_append, Placed, ih, totalSize, and_assoc, Nat.add_assoc]

theorem Node.not_end_iff : node.isEnd = false ↔ ¬ (node.type = endType ∧ node.subtype = endEntireSubtype) := by
  simp [isEnd]

theorem walkFrom_encode (placed : node.offset = offset) (inner : node.isEnd = false)
    (small : node.size < nodeSizeLimit) :
    walkFrom total offset (node.encode ++ rest) =
      (walkFrom total (offset + node.size) rest).after node := by
  have length := length_field small
  have header : ¬ node.size < headerSize := Nat.not_lt.mpr (Nat.le_add_right _ _)
  have payload : node.size - headerSize = node.payload.length := Nat.add_sub_cancel_left _ _
  change walkFrom total offset (node.type :: node.subtype :: UInt8.ofNat node.size ::
    UInt8.ofNat (node.size / 256) :: (node.payload ++ rest)) = _
  rw [walkFrom]
  dsimp only
  rw [length, if_neg header, if_neg (Node.not_end_iff.mp inner), payload, List.take_left,
    if_neg (Nat.lt_irrefl _), List.drop_left]
  subst placed
  rfl

theorem unheaded_iff : (∀ type subtype low high after, rest = type :: subtype :: low :: high :: after → False) ↔
    rest.length < headerSize := by
  constructor
  · intro unheaded
    match rest with
    | [] | [_] | [_, _] | [_, _, _] => simp [headerSize]
    | type :: subtype :: low :: high :: after => exact absurd rfl (unheaded type subtype low high after)
  · rintro short type subtype low high after rfl
    exact absurd short (Nat.not_lt.mpr (Nat.le_add_left 4 after.length))

theorem Ends.walkFrom (ends : Ends total offset rest fault) :
    walkFrom total offset rest = ⟨[], fault⟩ := by
  cases ends with
  | ended long =>
      rw [DevicePath.walkFrom]
      dsimp only
      rw [if_neg (Nat.not_lt.mpr long), if_pos ⟨rfl, rfl⟩]
  | missing short =>
      rw [DevicePath.walkFrom]
      exact unheaded_iff.mpr short
  | malformed short =>
      rw [DevicePath.walkFrom]
      dsimp only
      rw [if_pos short]
  | overrun inner beyond =>
      have long := Nat.le_trans (Nat.le_add_right _ _) (Nat.le_of_lt beyond)
      rw [DevicePath.walkFrom]
      dsimp only
      rw [if_neg (Nat.not_lt.mpr long), if_neg inner, if_pos (by rw [List.length_take]; omega)]

/-- A walk meets the nodes that are written where it begins, and ends as the bytes behind them make it. -/
theorem walkFrom_placed (placed : Placed offset nodes)
    (ends : Ends total (offset + totalSize nodes) rest fault) :
    walkFrom total offset (nodes.flatMap Node.encode ++ rest) = ⟨nodes, fault⟩ := by
  induction nodes generalizing offset with
  | nil => exact ends.walkFrom
  | cons node nodes ih =>
      obtain ⟨here, inner, small, behind⟩ := placed
      rw [totalSize, ← Nat.add_assoc] at ends
      rw [List.flatMap_cons, List.append_assoc, walkFrom_encode here inner small, ih behind ends]
      rfl

/-- The nodes that a walk met are written where it began, and it ended at the bytes behind them. -/
theorem walkFrom_exact {bytes : Bytes} (walked : walkFrom total offset bytes = ⟨nodes, fault⟩) :
    Placed offset nodes ∧ ∃ rest, bytes = nodes.flatMap Node.encode ++ rest ∧
      Ends total (offset + totalSize nodes) rest fault := by
  fun_induction walkFrom total offset bytes generalizing nodes
  case case1 offset type subtype low high after length short =>
    cases walked
    exact ⟨trivial, _, rfl, .malformed short⟩
  case case2 offset type subtype low high after length long ended =>
    cases walked
    obtain ⟨rfl, rfl⟩ := ended
    exact ⟨trivial, _, rfl, .ended (Nat.le_of_not_lt long)⟩
  case case3 offset type subtype low high after length long inner payload cut =>
    cases walked
    have beyond : headerSize + after.length < length := by
      rw [List.length_take] at cut
      omega
    exact ⟨trivial, _, rfl, .overrun inner beyond⟩
  case case5 offset rest unheaded =>
    cases walked
    exact ⟨trivial, _, rfl, .missing (unheaded_iff.mp unheaded)⟩
  case case4 offset type subtype low high after length long inner payload whole ih =>
    obtain ⟨rfl, ended⟩ := Walk.mk.inj walked
    obtain ⟨placed, tail, rest, ends⟩ := ih (by rw [← ended])
    have size : Node.size ⟨type, subtype, offset, payload⟩ = length := by
      have taken : payload.length ≤ length - headerSize := List.length_take_le _ _
      change headerSize + payload.length = length
      omega
    refine ⟨⟨rfl, Node.not_end_iff.mpr inner, ?_, ?_⟩, tail, ?_, ?_⟩
    · have := low.toNat_lt
      have := high.toNat_lt
      rw [size]
      unfold nodeSizeLimit
      omega
    · rw [size]
      exact placed
    · have field := ofNat_length_field low high
      rw [List.flatMap_cons, List.append_assoc, ← rest, Node.encode, size, field]
      exact congrArg (type :: subtype :: low :: high :: ·) (List.take_append_drop _ after).symm
    · rwa [totalSize, size, ← Nat.add_assoc]

end Walking

/-- `tail` is what a whole path holds from its first file path node to its end node. -/
inductive IsFileTail (path : Bytes) : Bytes → Prop where
  | intro {before after : List Node} {node : Node}
      (walked : walk path = ⟨before ++ node :: after, none⟩)
      (unnamed : ∀ other ∈ before, other.isFilePath = false) (named : node.isFilePath = true)
      (whole : path = before.flatMap Node.encode ++ ((node :: after).flatMap Node.encode ++ endNode)) :
      IsFileTail path ((node :: after).flatMap Node.encode ++ endNode)

section Paths

variable {device path : Bytes} {nodes : List Node}

theorem sizeWithoutEnd_eq_ok_iff {size : Nat} :
    sizeWithoutEnd device = .ok size ↔ ∃ nodes, walk device = ⟨nodes, none⟩ ∧ size = totalSize nodes := by
  unfold sizeWithoutEnd
  cases walk device with
  | mk nodes fault =>
      cases fault with
      | some fault => exact ⟨nofun, nofun⟩
      | none =>
          constructor
          · intro sized
            exact ⟨nodes, rfl, (Except.ok.inj sized).symm⟩
          · intro assumed
            obtain ⟨_, ⟨⟩, rfl⟩ := assumed
            rfl

theorem take_walked (walked : walk device = ⟨nodes, none⟩) :
    Placed 0 nodes ∧ device.take (totalSize nodes) = nodes.flatMap Node.encode := by
  obtain ⟨placed, tail, written, -⟩ := walkFrom_exact walked
  exact ⟨placed, by rw [written, ← length_encoded, List.take_left]⟩

theorem walk_written (placed : Placed 0 nodes) :
    walk (nodes.flatMap Node.encode ++ endNode) = ⟨nodes, none⟩ :=
  walkFrom_placed placed (.ended (by decide))

theorem firstFilePath_of_walked (walked : walk path = ⟨nodes, none⟩) :
    firstFilePath path = .ok ((nodes.find? Node.isFilePath).map Node.offset) := by
  unfold firstFilePath
  rw [walked]
  dsimp only
  cases nodes.find? Node.isFilePath with
  | none => rfl
  | some node => rfl

theorem firstFilePath_placed (placed : Placed 0 nodes) (named : ∃ node ∈ nodes, node.isFilePath = true)
    (written : path = nodes.flatMap Node.encode ++ endNode) :
    ∃ offset, firstFilePath path = .ok (some offset) ∧ IsFileTail path (path.drop offset) := by
  have walked : walk path = ⟨nodes, none⟩ := written ▸ walk_written placed
  obtain ⟨node, found⟩ := Option.isSome_iff_exists.mp (List.find?_isSome.mpr named)
  obtain ⟨names, before, after, rfl, unnamed⟩ := List.find?_eq_some_iff_append.mp found
  obtain ⟨here, -⟩ := (placed_append.mp placed).2
  have whole : path = before.flatMap Node.encode ++ ((node :: after).flatMap Node.encode ++ endNode) := by
    rw [written, List.flatMap_append, List.append_assoc]
  refine ⟨node.offset, ?_, ?_⟩
  · rw [firstFilePath_of_walked walked, found]
    rfl
  · have tail : path.drop node.offset = (node :: after).flatMap Node.encode ++ endNode := by
      rw [here, Nat.zero_add, ← length_encoded, whole, List.drop_left]
    rw [tail]
    exact .intro walked (fun other member => by simpa using unnamed other member) names whole

end Paths

end EfiHandoff.DevicePath
