import EfiHandoff.Proofs.DevicePath.Walk

/-!
# Paths written and read back

Nodes that are written down with an end node behind them are met again, whatever follows, and the bytes in front
of the end node that a walk came to are the nodes it met, written down. Read one node at a time, a path gives
what its walk found and then nothing more.
-/

set_option autoImplicit false

namespace EfiHandoff.DevicePath

/-- The same nodes, each with the place it has when they are written from `offset` on. -/
def standing (offset : Nat) : List Node → List Node
  | [] => []
  | node :: rest => { node with offset } :: standing (offset + node.size) rest

/-- What is found on a walk, in order: the nodes, and the fault behind them if there is one. -/
def Walk.items (walk : Walk) : List (Except WalkFault Node) :=
  walk.nodes.map .ok ++ (walk.fault.map .error).toList

/-- A walk comes to a header that lies in the path and declares `length` bytes, fewer than it has itself. -/
def ReachesShort (path : Bytes) (length : Nat) : Prop :=
  length < headerSize ∧ ∃ nodes type subtype low high after, Placed 0 nodes ∧
    path = nodes.flatMap Node.encode ++ type :: subtype :: low :: high :: after ∧
      low.toNat + 256 * high.toNat = length

structure Cursor where
  path : Bytes
  offset : Nat
  done : Bool

namespace Cursor

def start (path : Bytes) : Cursor := ⟨path, 0, false⟩

def finished (cursor : Cursor) : Cursor := { cursor with done := true }

def next (cursor : Cursor) : Option (Except WalkFault Node) × Cursor :=
  if cursor.done then (none, cursor)
  else
    match cursor.path.drop cursor.offset with
    | type :: subtype :: low :: high :: after =>
        let length := low.toNat + 256 * high.toNat
        if length < headerSize then
          (some (.error (.malformed cursor.offset length)), cursor.finished)
        else if type = endType ∧ subtype = endEntireSubtype then (none, cursor.finished)
        else
          let payload := after.take (length - headerSize)
          if payload.length < length - headerSize then
            (some (.error (.overrun cursor.offset length cursor.path.length)), cursor.finished)
          else
            (some (.ok ⟨type, subtype, cursor.offset, payload⟩),
              { cursor with offset := cursor.offset + length })
    | _ => (some (.error (.missingEnd cursor.path.length)), cursor.finished)

/-- What the reader gives when it is asked for the next node for the time `index`, counted from zero. -/
def reply (cursor : Cursor) : Nat → Option (Except WalkFault Node)
  | 0 => cursor.next.1
  | index + 1 => cursor.next.2.reply index

def remaining (cursor : Cursor) : List (Except WalkFault Node) :=
  if cursor.done then []
  else (walkFrom cursor.path.length cursor.offset (cursor.path.drop cursor.offset)).items

section Steps

variable {path rest : Bytes} {offset : Nat} {fault : Option WalkFault} {node : Node}

private theorem next_of_ends (ends : Ends path.length offset (path.drop offset) fault) :
    next ⟨path, offset, false⟩ = (fault.map .error, ⟨path, offset, true⟩) := by
  unfold next finished
  dsimp only
  rw [if_neg Bool.false_ne_true]
  generalize path.drop offset = rest at ends
  cases ends with
  | ended long =>
      dsimp only
      rw [if_neg (Nat.not_lt.mpr long), if_pos ⟨rfl, rfl⟩]
      rfl
  | missing short =>
      split
      · exact absurd rfl (unheaded_iff.mpr short _ _ _ _ _)
      · rfl
  | malformed short =>
      dsimp only
      rw [if_pos short]
      rfl
  | overrun inner beyond =>
      have long := Nat.le_trans (Nat.le_add_right _ _) (Nat.le_of_lt beyond)
      dsimp only
      rw [if_neg (Nat.not_lt.mpr long), if_neg inner, if_pos (by rw [List.length_take]; omega)]
      rfl

private theorem next_of_node (written : path.drop offset = node.encode ++ rest) (placed : node.offset = offset)
    (inner : node.isEnd = false) (small : node.size < nodeSizeLimit) :
    next ⟨path, offset, false⟩ = (some (.ok node), ⟨path, offset + node.size, false⟩) := by
  have length := length_field small
  have header : ¬ node.size < headerSize := Nat.not_lt.mpr (Nat.le_add_right _ _)
  have payload : node.size - headerSize = node.payload.length := Nat.add_sub_cancel_left _ _
  have shown : path.drop offset = node.type :: node.subtype :: UInt8.ofNat node.size ::
      UInt8.ofNat (node.size / 256) :: (node.payload ++ rest) := written
  subst placed
  unfold next
  dsimp only
  rw [if_neg Bool.false_ne_true, shown]
  dsimp only
  rw [length, if_neg header, if_neg (Node.not_end_iff.mp inner), payload, List.take_left,
    if_neg (Nat.lt_irrefl _)]

end Steps

/-- One step takes the first thing off what is left to read. -/
theorem next_remaining (cursor : Cursor) :
    cursor.next.1 = cursor.remaining.head? ∧ cursor.next.2.remaining = cursor.remaining.tail := by
  obtain ⟨path, offset, done⟩ := cursor
  cases done with
  | true => exact ⟨rfl, rfl⟩
  | false =>
      cases walked : walkFrom path.length offset (path.drop offset) with
      | mk nodes fault =>
          have left : remaining ⟨path, offset, false⟩ = (Walk.mk nodes fault).items :=
            congrArg Walk.items walked
          obtain ⟨placed, rest, written, ends⟩ := walkFrom_exact walked
          cases nodes with
          | nil =>
              have here : Ends path.length offset (path.drop offset) fault := by
                rw [written]
                exact ends
              rw [next_of_ends here, left]
              cases fault <;> exact ⟨rfl, rfl⟩
          | cons node nodes =>
              obtain ⟨here, inner, small, -⟩ := placed
              rw [List.flatMap_cons, List.append_assoc] at written
              rw [next_of_node written here inner small, left]
              refine ⟨rfl, ?_⟩
              have behind : path.drop (offset + node.size) = nodes.flatMap Node.encode ++ rest := by
                rw [← List.drop_drop, written, ← node.length_encode, List.drop_left]
              rw [written, walkFrom_encode here inner small, ← behind] at walked
              exact congrArg (fun walk => walk.items.tail) walked

theorem reply_eq (cursor : Cursor) (index : Nat) : cursor.reply index = cursor.remaining[index]? := by
  induction index generalizing cursor with
  | zero => rw [reply, (next_remaining cursor).1, List.head?_eq_getElem?]
  | succ index ih => rw [reply, ih, (next_remaining cursor).2, List.getElem?_tail]

end Cursor

section Written

private theorem placed_standing {offset : Nat} {nodes : List Node}
    (inner : ∀ node ∈ nodes, node.isEnd = false ∧ node.size < nodeSizeLimit) :
    Placed offset (standing offset nodes) := by
  induction nodes generalizing offset with
  | nil => exact trivial
  | cons node nodes ih =>
      obtain ⟨⟨open_, small⟩, others⟩ := List.forall_mem_cons.mp inner
      exact ⟨rfl, open_, small, ih others⟩

/-- Where a node stands is not part of its written form. -/
theorem encoded_standing (offset : Nat) (nodes : List Node) :
    (standing offset nodes).flatMap Node.encode = nodes.flatMap Node.encode := by
  induction nodes generalizing offset with
  | nil => rfl
  | cons node nodes ih =>
      rw [standing, List.flatMap_cons, List.flatMap_cons, ih]
      rfl

end Written

section Faults

variable {path : Bytes}

private theorem walk_ends (path : Bytes) : ∃ rest, Placed 0 (walk path).nodes ∧
    path = (walk path).nodes.flatMap Node.encode ++ rest ∧
      Ends path.length (totalSize (walk path).nodes) rest (walk path).fault := by
  have walked : walkFrom path.length 0 path = ⟨(walk path).nodes, (walk path).fault⟩ := rfl
  obtain ⟨placed, rest, written, ends⟩ := walkFrom_exact walked
  rw [Nat.zero_add] at ends
  exact ⟨rest, placed, written, ends⟩

theorem fault_malformed_iff {length : Nat} :
    (∃ fault, (walk path).fault = some fault ∧ Fault.error fault = .malformedNode length) ↔
      ReachesShort path length := by
  constructor
  · intro assumed
    obtain ⟨fault, stopped, meaning⟩ := assumed
    obtain ⟨rest, placed, written, ends⟩ := walk_ends path
    rw [stopped] at ends
    cases ends with
    | missing | overrun => cases meaning
    | malformed short =>
        cases meaning
        exact ⟨short, _, _, _, _, _, _, placed, written, rfl⟩
  · intro reaches
    obtain ⟨short, nodes, type, subtype, low, high, after, placed, written, rfl⟩ := reaches
    have walked : walk path = ⟨nodes, some (.malformed (0 + totalSize nodes) (low.toNat + 256 * high.toNat))⟩ := by
      unfold walk
      generalize path.length = total
      rw [written]
      exact walkFrom_placed placed (.malformed short)
    rw [walked]
    exact ⟨_, rfl, rfl⟩

private theorem fault_error {fault : WalkFault} (stopped : (walk path).fault = some fault) :
    (∃ length, Fault.error fault = .malformedNode length) ∨ Fault.error fault = .unterminatedDevicePath := by
  obtain ⟨rest, -, -, ends⟩ := walk_ends path
  rw [stopped] at ends
  cases ends with
  | missing | overrun => exact .inr rfl
  | malformed => exact .inl ⟨_, rfl⟩

end Faults

/-- Nodes written one behind the other with an end node are met again, each where it was written, whatever bytes
follow. What a walk without fault met is what the bytes up to its end node say. And a reader of any path gives
the nodes one by one, then at most one fault, which is that of a header that declares fewer bytes than it has if
the walk came to one, and then nothing more. -/
theorem walk_round_trip :
    (∀ (nodes : List Node) (tail : Bytes),
        (∀ node ∈ nodes, node.payload.length ≤ 65531 ∧ ¬ (node.type = 0x7f ∧ node.subtype = 0xff)) →
          walk (nodes.flatMap Node.encode ++ (endNode ++ tail)) = ⟨standing 0 nodes, none⟩ ∧
          sizeWithoutEnd (nodes.flatMap Node.encode ++ (endNode ++ tail)) =
            .ok (nodes.flatMap Node.encode).length) ∧
      (∀ path, (walk path).fault = none →
        ∃ size low high tail, sizeWithoutEnd path = .ok size ∧
          path.take size = (walk path).nodes.flatMap Node.encode ∧
          path.drop size = 0x7f :: 0xff :: low :: high :: tail ∧ 4 ≤ low.toNat + 256 * high.toNat) ∧
      ∀ path, (∀ index, (Cursor.start path).reply index = (walk path).items[index]?) ∧
        (∀ length, (∃ fault, (walk path).fault = some fault ∧
            Fault.error fault = .malformedNode length) ↔ ReachesShort path length) ∧
        ∀ fault, (walk path).fault = some fault → (∀ length, ¬ ReachesShort path length) →
          Fault.error fault = .unterminatedDevicePath := by
  refine ⟨?_, ?_, ?_⟩
  · intro nodes tail fits
    have inner : ∀ node ∈ nodes, node.isEnd = false ∧ node.size < nodeSizeLimit := by
      intro node member
      obtain ⟨small, open_⟩ := fits node member
      refine ⟨Node.not_end_iff.mpr open_, ?_⟩
      unfold Node.size headerSize nodeSizeLimit
      omega
    have walked : walk (nodes.flatMap Node.encode ++ (endNode ++ tail)) = ⟨standing 0 nodes, none⟩ := by
      rw [← encoded_standing 0 nodes]
      exact walkFrom_placed (placed_standing inner) (.ended (by decide))
    refine ⟨walked, ?_⟩
    rw [sizeWithoutEnd_eq_ok_iff.mpr ⟨_, walked, rfl⟩, ← length_encoded, encoded_standing]
  · intro path finished
    obtain ⟨rest, -, written, ends⟩ := walk_ends path
    cases walked : walk path with
    | mk nodes fault =>
        rw [walked] at finished written ends
        obtain rfl : fault = none := finished
        cases ends with
        | @ended low high tail long =>
            refine ⟨totalSize nodes, low, high, tail, sizeWithoutEnd_eq_ok_iff.mpr ⟨nodes, walked, rfl⟩,
              ?_, ?_, long⟩
            · rw [written, ← length_encoded, List.take_left]
            · rw [written, ← length_encoded, List.drop_left]
              rfl
  · intro path
    refine ⟨(Cursor.start path).reply_eq, fun _ => fault_malformed_iff, ?_⟩
    intro fault stopped long
    rcases fault_error stopped with ⟨length, meaning⟩ | unterminated
    · exact absurd (fault_malformed_iff.mp ⟨fault, stopped, meaning⟩) (long length)
    · exact unterminated

def longEnd : Bytes := [1, 1, 4, 0, 0x7f, 0xff, 9, 0]

def shortEnd : Bytes := [1, 1, 4, 0, 0x7f, 0xff, 3, 0]

/-- The end of an instance is a node like any other, an end node may declare more bytes than it has, and one that
declares fewer is a fault. -/
theorem walk_round_trip_endNodes :
    walk ([⟨0x7f, 0x01, 9, []⟩, ⟨1, 1, 9, [2, 31]⟩].flatMap Node.encode ++ (endNode ++ [4, 0])) =
        ⟨[⟨0x7f, 0x01, 0, []⟩, ⟨1, 1, 4, [2, 31]⟩], none⟩ ∧
      (∃ size low high tail, sizeWithoutEnd longEnd = .ok size ∧
        longEnd.take size = (walk longEnd).nodes.flatMap Node.encode ∧
        longEnd.drop size = 0x7f :: 0xff :: low :: high :: tail ∧ 4 ≤ low.toNat + 256 * high.toNat) ∧
      (Cursor.start shortEnd).reply 1 = some (.error (.malformed 4 3)) ∧ ReachesShort shortEnd 3 := by
  obtain ⟨written, ended, read⟩ := walk_round_trip
  have short : walk shortEnd = ⟨[⟨1, 1, 0, []⟩], some (.malformed 4 3)⟩ := by decide +kernel
  refine ⟨(written _ _ (by decide)).1, ended longEnd (by decide +kernel), ?_, ?_⟩
  · rw [(read _).1, short]
    rfl
  · exact ((read _).2.1 3).mp ⟨.malformed 4 3, by rw [short], rfl⟩

end EfiHandoff.DevicePath
