import EfiHandoff.Proofs.DevicePath.FilePathBytes
import EfiHandoff.SystemTable.Volume

/-!
# Device paths out of firmware memory

Memory is walked once more with a limit on the rounds and on the places that may be read, and neither is ever reached.
What is copied is what leads to an end node in time, and all who walk a device path find the same in it.
-/

set_option autoImplicit false

namespace EfiHandoff

namespace DevicePath

section Copies

variable {node : Node} {nodes : List Node} {offset : Nat} {low high : UInt8} {tail rest : Bytes}

private theorem upToEnd_encode (inner : node.isEnd = false) (small : node.size < nodeSizeLimit) :
    upToEnd (node.encode ++ rest) = node.encode ++ upToEnd rest := by
  have length := length_field small
  have payload : node.size - headerSize = node.payload.length := Nat.add_sub_cancel_left _ _
  change upToEnd (node.type :: node.subtype :: UInt8.ofNat node.size :: UInt8.ofNat (node.size / 256) ::
    (node.payload ++ rest)) = _
  rw [upToEnd]
  rw [length, if_neg (Node.not_end_iff.mp inner), payload, List.take_left, List.drop_left]
  rfl

private theorem upToEnd_placed (placed : Placed offset nodes) :
    upToEnd (nodes.flatMap Node.encode ++ rest) = nodes.flatMap Node.encode ++ upToEnd rest := by
  induction nodes generalizing offset with
  | nil => rfl
  | cons node nodes ih =>
      obtain ⟨-, inner, small, behind⟩ := placed
      rw [List.flatMap_cons, List.append_assoc, upToEnd_encode inner small, ih behind, List.append_assoc]

private theorem upToEnd_ended (declared : low.toNat + 256 * high.toNat = headerSize + tail.length) :
    upToEnd (endType :: endEntireSubtype :: low :: high :: (tail ++ rest)) =
      endType :: endEntireSubtype :: low :: high :: tail := by
  rw [upToEnd]
  rw [declared, Nat.add_sub_cancel_left, List.take_left, if_pos ⟨rfl, rfl⟩, List.append_nil]

end Copies

/-- Where a device path is in order, only the text, the memory and the lengths of the names can be wrong. -/
theorem ofFile_error {limit : MemoryLimit} {device : Bytes} {path : List Char} {size : Nat} {why : BootError}
    (sized : sizeWithoutEnd device = .ok size) (failed : Fault.simplify (ofFile limit device path) = .error why) :
    why = .pathWithoutDirectory ∨ why = .outOfMemory ∨ why = .componentTooLong := by
  rcases named_or_flat path with ⟨directory, file, named⟩ | flat
  · rw [ofFile_of_named named sized] at failed
    split at failed
    · cases failed
      exact .inr (.inl rfl)
    · split at failed
      · cases failed
        exact .inr (.inr rfl)
      · split at failed
        · cases failed
          exact .inr (.inr rfl)
        · cases failed
  · unfold ofFile at failed
    rw [flat.splitPath] at failed
    cases failed
    exact .inl rfl

end DevicePath

namespace Volume

open DevicePath

def lengthAt (memory : Nat → UInt8) (place : Nat) : Nat :=
  (memory (place + 2)).toNat + 256 * (memory (place + 3)).toNat

def EndsAt (memory : Nat → UInt8) (place : Nat) : Prop := memory place = 0x7f ∧ memory (place + 1) = 0xff

/-- The nodes from a place on, each behind the declared length of the one before, lead to an end node. Behind it, by its
own declared length, is the second place. -/
inductive Leads (memory : Nat → UInt8) : Nat → Nat → Prop where
  | ended {place : Nat} (long : 4 ≤ lengthAt memory place) (ends : EndsAt memory place) :
      Leads memory place (place + lengthAt memory place)
  | node {place size : Nat} (long : 4 ≤ lengthAt memory place) (inner : ¬ EndsAt memory place)
      (rest : Leads memory (place + lengthAt memory place) size) : Leads memory place size

inductive CopyGuard
  | refused (node : Nat)
  /-- Nothing may be read at `place`. -/
  | unreadable (place : Nat)
  /-- There were more nodes than rounds. -/
  | unfinished
deriving DecidableEq, Repr

section Guarded

def peek (memory : Nat → Option UInt8) (place : Nat) : Except CopyGuard UInt8 :=
  match memory place with
  | some byte => .ok byte
  | none => .error (.unreadable place)

def guardedSize (memory : Nat → Option UInt8) : (rounds length : Nat) → Except CopyGuard Nat
  | 0, _ => .error .unfinished
  | rounds + 1, length => do
      let type ← peek memory length
      let subtype ← peek memory (length + 1)
      let low ← peek memory (length + 2)
      let high ← peek memory (length + 3)
      let node := low.toNat + 256 * high.toNat
      if node < headerSize ∨ maxDevicePath < length + node then throw (.refused node)
      if type = endType ∧ subtype = endEntireSubtype then return length + node
      guardedSize memory rounds (length + node)

/-- Copies a device path out of memory that is readable in part, with as many rounds. -/
def guardedCopy (memory : Nat → Option UInt8) (rounds : Nat) : Except CopyGuard Bytes := do
  let size ← guardedSize memory rounds 0
  (List.range size).mapM (peek memory)

def readableBelow (bound : Nat) (memory : Nat → UInt8) (place : Nat) : Option UInt8 :=
  if place < bound then some (memory place) else none

variable {memory : Nat → UInt8} {bound place rounds : Nat}

private theorem peek_below (below : place < bound) : peek (readableBelow bound memory) place = .ok (memory place) := by
  unfold peek readableBelow
  rw [if_pos below]

private theorem mapM_peek {places : List Nat} (below : ∀ place ∈ places, place < bound) :
    places.mapM (peek (readableBelow bound memory)) = .ok (places.map memory) := by
  induction places with
  | nil => rfl
  | cons place places ih =>
      obtain ⟨here, others⟩ := List.forall_mem_cons.mp below
      rw [List.mapM_cons, peek_below here, ih others]
      rfl

/-- Every round but the last takes the walk four bytes on at least, and no round starts behind the limit. -/
theorem guardedSize_eq (near : place ≤ maxDevicePath) (enough : maxDevicePath < place + 4 * rounds) :
    guardedSize (readableBelow (maxDevicePath + 4) memory) rounds place =
      (pathSizeFrom memory place).mapError .refused := by
  induction rounds generalizing place with
  | zero => omega
  | succ rounds ih =>
      rw [guardedSize, pathSizeFrom, peek_below (by omega), peek_below (by omega), peek_below (by omega),
        peek_below (by omega)]
      dsimp only [bind, Except.bind, pure, Except.pure]
      split
      · rfl
      · next fits =>
          split
          · rfl
          · simp only [headerSize] at fits
            exact ih (by omega) (by omega)

end Guarded

section Sizes

variable {memory : Nat → UInt8} {place size : Nat}

theorem Leads.le (leads : Leads memory place size) : place ≤ size := by
  induction leads with
  | ended => exact Nat.le_add_right _ _
  | node _ _ _ ih => exact Nat.le_trans (Nat.le_add_right _ _) ih

/-- A path is as long as its nodes say, if that is within the limit. -/
theorem pathSizeFrom_eq_ok_iff : pathSizeFrom memory place = .ok size ↔ Leads memory place size ∧ size ≤ 4096 := by
  constructor
  · intro sized
    fun_induction pathSizeFrom memory place with
    | case1 => cases sized
    | case2 place node fits ends =>
        obtain rfl := Except.ok.inj sized
        obtain ⟨long, near⟩ := not_or.mp fits
        exact ⟨.ended (Nat.le_of_not_lt long) ends, Nat.le_of_not_lt near⟩
    | case3 place node fits inner ih =>
        obtain ⟨leads, small⟩ := ih sized
        exact ⟨.node (Nat.le_of_not_lt (not_or.mp fits).1) inner leads, small⟩
  · rintro ⟨leads, small⟩
    induction leads with
    | @ended place long ends =>
        have fits : ¬ (lengthAt memory place < 4 ∨ 4096 < place + lengthAt memory place) := by omega
        rw [pathSizeFrom]
        exact (if_neg fits).trans (if_pos ends)
    | @node place size long inner rest ih =>
        have within := rest.le
        have fits : ¬ (lengthAt memory place < 4 ∨ 4096 < place + lengthAt memory place) := by omega
        rw [pathSizeFrom]
        exact (if_neg fits).trans ((if_neg inner).trans (ih small))

theorem copyPath_eq_ok_iff {path : Bytes} :
    copyPath memory = .ok path ↔ ∃ size, Leads memory 0 size ∧ size ≤ 4096 ∧ path = (List.range size).map memory := by
  unfold copyPath
  cases sized : pathSizeFrom memory 0 with
  | error node =>
      refine iff_of_false nofun fun assumed => ?_
      obtain ⟨size, leads, small, -⟩ := assumed
      rw [pathSizeFrom_eq_ok_iff.mpr ⟨leads, small⟩] at sized
      cases sized
  | ok size =>
      have found := pathSizeFrom_eq_ok_iff.mp sized
      constructor
      · intro copied
        exact ⟨size, found.1, found.2, (Except.ok.inj copied).symm⟩
      · intro assumed
        obtain ⟨other, leads, small, rfl⟩ := assumed
        obtain rfl := Except.ok.inj (sized.symm.trans (pathSizeFrom_eq_ok_iff.mpr ⟨leads, small⟩))
        rfl

theorem guardedCopy_eq (memory : Nat → UInt8) :
    guardedCopy (readableBelow 4100 memory) 1025 = (copyPath memory).mapError .refused := by
  have sized := @guardedSize_eq memory 0 1025 (Nat.zero_le _) (by decide)
  unfold guardedCopy copyPath
  change (guardedSize (readableBelow (maxDevicePath + 4) memory) 1025 0 >>= _) = _
  rw [sized]
  cases found : pathSizeFrom memory 0 with
  | error node => rfl
  | ok size =>
      have small := (pathSizeFrom_eq_ok_iff.mp found).2
      refine mapM_peek fun place member => ?_
      have := List.mem_range.mp member
      omega

end Sizes

section Windows

variable {memory : Nat → UInt8} {place size : Nat}

def window (memory : Nat → UInt8) (place length : Nat) : Bytes := (List.range' place length).map memory

private theorem window_add (memory : Nat → UInt8) (place first second : Nat) :
    window memory place (first + second) = window memory place first ++ window memory (place + first) second := by
  unfold window
  rw [← List.range'_append_1, List.map_append]

private theorem length_window (memory : Nat → UInt8) (place length : Nat) :
    (window memory place length).length = length := by
  simp [window]

private theorem window_header (memory : Nat → UInt8) (place : Nat) {length : Nat} (long : 4 ≤ length) :
    window memory place length = memory place :: memory (place + 1) :: memory (place + 2) :: memory (place + 3) ::
      window memory (place + 4) (length - 4) := by
  have split := window_add memory place 4 (length - 4)
  rw [Nat.add_sub_of_le long] at split
  exact split

def nodeAt (memory : Nat → UInt8) (place : Nat) : Node :=
  ⟨memory place, memory (place + 1), place, window memory (place + 4) (lengthAt memory place - 4)⟩

private theorem size_nodeAt (long : 4 ≤ lengthAt memory place) :
    (nodeAt memory place).size = lengthAt memory place := by
  rw [Node.size, nodeAt, length_window]
  exact Nat.add_sub_of_le long

private theorem encode_nodeAt (long : 4 ≤ lengthAt memory place) :
    (nodeAt memory place).encode = window memory place (lengthAt memory place) := by
  have field := ofNat_length_field (memory (place + 2)) (memory (place + 3))
  rw [Node.encode, size_nodeAt long, window_header _ _ long]
  change _ :: _ :: Bytes.ofNat 2 (lengthAt memory place) ++ _ = _
  rw [lengthAt, field]
  rfl

private theorem lengthAt_lt (memory : Nat → UInt8) (place : Nat) : lengthAt memory place < nodeSizeLimit := by
  have := (memory (place + 2)).toNat_lt
  have := (memory (place + 3)).toNat_lt
  unfold lengthAt nodeSizeLimit
  omega

/-- The memory that leads to an end node holds nodes, each at its place, and the end node with all that it declares. -/
theorem Leads.written (leads : Leads memory place size) :
    ∃ nodes low high tail, Placed place nodes ∧
      window memory place (size - place) =
        nodes.flatMap Node.encode ++ endType :: endEntireSubtype :: low :: high :: tail ∧
      low.toNat + 256 * high.toNat = headerSize + tail.length := by
  induction leads with
  | @ended place long ends =>
      refine ⟨[], memory (place + 2), memory (place + 3), window memory (place + 4) (lengthAt memory place - 4),
        trivial, ?_, ?_⟩
      · rw [Nat.add_sub_cancel_left, window_header _ _ long, ends.1, ends.2]
        rfl
      · rw [length_window]
        exact (Nat.add_sub_of_le long).symm
  | @node place size long inner rest ih =>
      obtain ⟨nodes, low, high, tail, placed, written, declared⟩ := ih
      have whole : size - place = lengthAt memory place + (size - (place + lengthAt memory place)) := by
        have := rest.le
        omega
      refine ⟨nodeAt memory place :: nodes, low, high, tail, ⟨rfl, Node.not_end_iff.mpr inner, ?_, ?_⟩, ?_, declared⟩
      · rw [size_nodeAt long]
        exact lengthAt_lt memory place
      · rwa [size_nodeAt long]
      · rw [whole, window_add, written, List.flatMap_cons, encode_nodeAt long, List.append_assoc]

end Windows

/-- What is copied out of memory is what the declared lengths of its nodes lead to, if that is an end node in time, and
nothing is read beyond the limit. What was copied is a device path to all who walk one. -/
theorem copyPath_agrees_with_walk (memory : Nat → UInt8) :
    guardedCopy (readableBelow 4100 memory) 1025 = (copyPath memory).mapError .refused ∧
    (∀ path, copyPath memory = .ok path ↔
      ∃ size, Leads memory 0 size ∧ size ≤ 4096 ∧ path = (List.range size).map memory) ∧
    ∀ path, copyPath memory = .ok path →
      (∃ nodes size low high tail, walk path = ⟨nodes, none⟩ ∧ sizeWithoutEnd path = .ok size ∧
        path.drop size = 0x7f :: 0xff :: low :: high :: tail ∧
        size + (low.toNat + 256 * high.toNat) = path.length) ∧
      (∀ limit name why, Fault.simplify (ofFile limit path name) = .error why →
        why ≠ .unterminatedDevicePath ∧ ∀ length, why ≠ .malformedNode length) ∧
      ∀ rest, upToEnd (path ++ rest) = path := by
  refine ⟨guardedCopy_eq memory, fun path => copyPath_eq_ok_iff, fun path copied => ?_⟩
  obtain ⟨size, leads, -, rfl⟩ := copyPath_eq_ok_iff.mp copied
  obtain ⟨nodes, low, high, tail, placed, written, declared⟩ := leads.written
  have written : (List.range size).map memory =
      nodes.flatMap Node.encode ++ endType :: endEntireSubtype :: low :: high :: tail := by
    rw [← written, List.range_eq_range', Nat.sub_zero, window]
  rw [written]
  have walked :
      walk (nodes.flatMap Node.encode ++ endType :: endEntireSubtype :: low :: high :: tail) = ⟨nodes, none⟩ :=
    walkFrom_placed placed (.ended (declared ▸ Nat.le_add_right _ _))
  have sized := sizeWithoutEnd_eq_ok_iff.mpr ⟨nodes, walked, rfl⟩
  refine ⟨⟨nodes, totalSize nodes, low, high, tail, walked, sized, ?_, ?_⟩, ?_, ?_⟩
  · rw [← length_encoded, List.drop_left]
    rfl
  · rw [declared, List.length_append, length_encoded]
    simp only [List.length_cons, headerSize]
    omega
  · intro limit name why failed
    rcases ofFile_error sized failed with rfl | rfl | rfl <;> simp
  · intro rest
    rw [List.append_assoc, upToEnd_placed placed]
    exact congrArg (_ ++ ·) (upToEnd_ended declared)

def longPath (length : UInt8) (place : Nat) : UInt8 :=
  (([(0, 1), (1, 1), (2, 0xfa), (3, 0x0f), (4090, 0x7f), (4091, 0xff), (4092, length)] : List (Nat × UInt8)).lookup
    place).getD 0

/-- What the end node declares counts, here up to the last byte of the limit and one beyond it. -/
theorem copyPath_agrees_with_walk_full :
    Leads (longPath 6) 0 4096 ∧
      (∃ path, copyPath (longPath 6) = .ok path ∧ path.length = 4096 ∧ ∀ rest, upToEnd (path ++ rest) = path) ∧
      guardedCopy (readableBelow 4100 (longPath 7)) 1025 = .error (.refused 7) := by
  have leads : Leads (longPath 6) 0 4096 :=
    .node (by decide) (by unfold EndsAt; decide) (@Leads.ended _ 4090 (by decide) (by unfold EndsAt; decide))
  obtain ⟨-, copies, whole⟩ := copyPath_agrees_with_walk (longPath 6)
  have copied := (copies _).mpr ⟨4096, leads, Nat.le_refl _, rfl⟩
  refine ⟨leads, ⟨_, copied, ?_, (whole _ copied).2.2⟩, ?_⟩
  · rw [List.length_map, List.length_range]
  · have refused : copyPath (longPath 7) = .error 7 := by decide +kernel
    rw [(copyPath_agrees_with_walk (longPath 7)).1, refused]
    rfl

end Volume

end EfiHandoff
