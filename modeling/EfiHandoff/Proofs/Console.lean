import EfiHandoff.Console
import EfiHandoff.Proofs.Text.Utf16

/-!
# Text on the firmware console

However often the small buffer is filled and handed over, the console shows the units of the text, each of them once
and in their order, and nothing of what earlier pieces left in the buffer.
-/

set_option autoImplicit false

namespace EfiHandoff.ConsoleBuffer

section HandingOver

/-- Cells that hold a piece and a NUL right behind it. What stands behind the NUL is of no account. -/
structure Terminated (piece : List UInt16) (cells : Array UInt16) : Prop where
  size : cells.size = 65
  ends : ∃ stale, cells.toList = piece ++ 0 :: stale

/-- How units reach the console: in pieces of 64, and what is left as a last piece that is not empty. -/
inductive HandedOver : List UInt16 → List (Array UInt16) → Prop where
  | nothing : HandedOver [] []
  | last {piece : List UInt16} {cells : Array UInt16} (nonempty : piece ≠ []) (fits : piece.length ≤ 64)
      (terminated : Terminated piece cells) : HandedOver piece [cells]
  | full {piece rest : List UInt16} {cells : Array UInt16} {later : List (Array UInt16)}
      (whole : piece.length = 64) (terminated : Terminated piece cells) (behind : HandedOver rest later) :
      HandedOver (piece ++ rest) (cells :: later)

/-- A buffer with room for one more unit, in which some units wait to be handed over. -/
structure Holds (buffer : ConsoleBuffer) (pending : List UInt16) : Prop where
  size : buffer.cells.size = 65
  used : buffer.used = pending.length
  room : pending.length < 64
  stored : pending <+: buffer.cells.toList

variable {buffer : ConsoleBuffer} {pending : List UInt16}

private theorem empty_holds : empty.Holds [] := ⟨Array.size_replicate, rfl, by decide, List.nil_prefix⟩

/-- The cells when a unit is written right behind those that count. -/
theorem toList_set_end {cells : Array UInt16} {inner : List UInt16} (stored : inner <+: cells.toList)
    (room : inner.length < cells.size) (unit : UInt16) :
    ∃ behind, (cells.setIfInBounds inner.length unit).toList = inner ++ unit :: behind := by
  obtain ⟨behind, split⟩ := stored
  cases behind with
  | nil =>
      rw [← Array.length_toList, ← split, List.append_nil] at room
      exact absurd room (Nat.lt_irrefl _)
  | cons old behind =>
      refine ⟨behind, ?_⟩
      rw [Array.toList_setIfInBounds, ← split, List.set_append_right _ _ (Nat.le_refl _), Nat.sub_self]
      rfl

private theorem push_stored (holds : buffer.Holds pending) (unit : UInt16) :
    pending ++ [unit] <+: (buffer.push unit).cells.toList := by
  have inside : pending.length < buffer.cells.size := by
    have room := holds.room
    rw [holds.size]
    omega
  obtain ⟨behind, split⟩ := toList_set_end holds.stored inside unit
  refine ⟨behind, ?_⟩
  rw [push, holds.used, split, List.append_assoc]
  rfl

/-- A unit that does not fill the buffer joins those that wait. -/
theorem Holds.push (holds : buffer.Holds pending) (unit : UInt16) (room : pending.length + 1 ≠ 64) :
    (buffer.push unit).Holds (pending ++ [unit]) where
  size := by rw [ConsoleBuffer.push, Array.size_setIfInBounds, holds.size]
  used := by rw [ConsoleBuffer.push, holds.used, List.length_append, List.length_singleton]
  room := by
    have before := holds.room
    rw [List.length_append, List.length_singleton]
    omega
  stored := push_stored holds unit

/-- Handing over puts a NUL behind the units that are there. There is a place for it even when 64 are. -/
theorem terminated_of_stored {piece : List UInt16} (size : buffer.cells.size = 65)
    (used : buffer.used = piece.length) (fits : piece.length ≤ 64) (stored : piece <+: buffer.cells.toList) :
    Terminated piece buffer.terminated := by
  refine ⟨by rw [terminated, Array.size_setIfInBounds, size], ?_⟩
  rw [terminated, used]
  exact toList_set_end stored (by omega) 0

private theorem handOver_spec (holds : buffer.Holds pending) (units : List UInt16) :
    HandedOver (pending ++ units) (buffer.handOver units) := by
  induction units generalizing buffer pending with
  | nil =>
      rw [List.append_nil, handOver, holds.used]
      split
      · next empty =>
          rw [List.eq_nil_of_length_eq_zero empty]
          exact .nothing
      · next nonempty =>
          have fits := Nat.le_of_lt holds.room
          exact .last (mt (congrArg List.length) nonempty) fits
            (terminated_of_stored holds.size holds.used fits holds.stored)
  | cons unit rest ih =>
      have size : (buffer.push unit).cells.size = 65 := by
        rw [push, Array.size_setIfInBounds, holds.size]
      have used : (buffer.push unit).used = (pending ++ [unit]).length := by
        rw [push, holds.used, List.length_append, List.length_singleton]
      rw [List.append_cons, handOver]
      split
      · next filled =>
          have whole : (pending ++ [unit]).length = 64 := used.symm.trans filled
          have terminated := terminated_of_stored size used (Nat.le_of_eq whole) (push_stored holds unit)
          exact .full whole terminated (ih ⟨terminated.size, rfl, by decide, List.nil_prefix⟩)
      · next notFilled =>
          refine ih (holds.push unit fun filled => notFilled ?_)
          rw [used, List.length_append, List.length_singleton]
          exact filled

end HandingOver

section Showing

variable {units : List UInt16} {buffers : List (Array UInt16)}

theorem Terminated.shown {piece : List UInt16} {cells : Array UInt16} (terminated : Terminated piece cells)
    (noNul : ∀ unit ∈ piece, unit ≠ 0) : shown cells = piece := by
  obtain ⟨stale, split⟩ := terminated.ends
  rw [ConsoleBuffer.shown, split, Utf16.untilNul,
    List.takeWhile_append_of_pos fun unit member => decide_eq_true (noNul unit member)]
  exact List.append_nil piece

theorem Terminated.nul {piece : List UInt16} {cells : Array UInt16} (terminated : Terminated piece cells) :
    cells[piece.length]? = some 0 := by
  obtain ⟨stale, split⟩ := terminated.ends
  rw [← Array.getElem?_toList, split, List.getElem?_append_right (Nat.le_refl _), Nat.sub_self]
  rfl

/-- The pieces that are shown, one behind the other, are the units. -/
theorem HandedOver.shown (handed : HandedOver units buffers) (noNul : ∀ unit ∈ units, unit ≠ 0) :
    buffers.flatMap ConsoleBuffer.shown = units := by
  induction handed with
  | nothing => rfl
  | last _ _ terminated => rw [List.flatMap_singleton, terminated.shown noNul]
  | full _ terminated _ ih =>
      obtain ⟨inPiece, inRest⟩ := List.forall_mem_append.mp noNul
      rw [List.flatMap_cons, terminated.shown inPiece, ih inRest]

/-- No piece is empty or too long for its buffer, and its NUL stands right behind it. -/
theorem HandedOver.each (handed : HandedOver units buffers) (noNul : ∀ unit ∈ units, unit ≠ 0) :
    ∀ cells ∈ buffers, cells.size = 65 ∧ 1 ≤ (ConsoleBuffer.shown cells).length ∧
      (ConsoleBuffer.shown cells).length ≤ 64 ∧ cells[(ConsoleBuffer.shown cells).length]? = some 0 := by
  induction handed with
  | nothing => exact fun cells member => absurd member List.not_mem_nil
  | last nonempty fits terminated =>
      intro cells member
      rw [List.mem_singleton.mp member, terminated.shown noNul]
      exact ⟨terminated.size, List.length_pos_iff.mpr nonempty, fits, terminated.nul⟩
  | full whole terminated _ ih =>
      obtain ⟨inPiece, inRest⟩ := List.forall_mem_append.mp noNul
      refine List.forall_mem_cons.mpr ⟨?_, ih inRest⟩
      rw [terminated.shown inPiece]
      exact ⟨terminated.size, by omega, by omega, terminated.nul⟩

/-- Only the last piece may be shorter than the others. -/
theorem HandedOver.beforeLast (handed : HandedOver units buffers) (noNul : ∀ unit ∈ units, unit ≠ 0) :
    ∀ cells ∈ buffers.dropLast, (ConsoleBuffer.shown cells).length = 64 := by
  induction handed with
  | nothing => exact fun cells member => absurd member List.not_mem_nil
  | last => exact fun cells member => absurd member List.not_mem_nil
  | @full piece rest cells later whole terminated _ ih =>
      obtain ⟨inPiece, inRest⟩ := List.forall_mem_append.mp noNul
      cases later with
      | nil => exact fun cells member => absurd member List.not_mem_nil
      | cons next later =>
          refine List.forall_mem_cons.mpr ⟨?_, ih inRest⟩
          rw [terminated.shown inPiece, whole]

end Showing

end EfiHandoff.ConsoleBuffer

namespace EfiHandoff.Console

open ConsoleBuffer

private theorem encode_noNul {text : List Char} (noNul : '\x00' ∉ text) : ∀ unit ∈ Utf16.encode text, unit ≠ 0 := by
  intro unit member
  obtain ⟨char, inside, encoded⟩ := List.mem_flatMap.mp member
  have different : char ≠ '\x00' := fun nul => noNul (nul ▸ inside)
  exact Utf16.encodeChar_ne rfl (by decide) different unit encoded

private theorem pieces_handedOver (text : String) : HandedOver (Utf16.encode text.toList) (pieces true text) :=
  handOver_spec empty_holds (Utf16.encode text.toList)

private theorem shown_pieces {text : String} (noNul : '\x00' ∉ text.toList) :
    (pieces true text).flatMap shown = Utf16.encode text.toList :=
  (pieces_handedOver text).shown (encode_noNul noNul)

/-- Text without a NUL appears on the console as it was written, whatever pieces it is handed over in. Within one text
every piece has 64 units but the last, which has fewer or as many and at least one, and a NUL closes each piece inside
its buffer. No text, no piece. -/
theorem pieces_lossless (texts : List String) (noNul : ∀ text ∈ texts, '\x00' ∉ text.toList) :
    (texts.flatMap (pieces true)).flatMap shown = Utf16.encode (texts.flatMap String.toList) ∧
    (∀ text ∈ texts,
      HandedOver (Utf16.encode text.toList) (pieces true text) ∧
      (∀ cells ∈ pieces true text, cells.size = 65 ∧ 1 ≤ (shown cells).length ∧ (shown cells).length ≤ 64 ∧
        cells[(shown cells).length]? = some 0) ∧
      ∀ cells ∈ (pieces true text).dropLast, (shown cells).length = 64) ∧
    pieces true "" = [] := by
  refine ⟨?_, fun text member => ?_, rfl⟩
  · induction texts with
    | nil => rfl
    | cons text texts ih =>
        obtain ⟨first, others⟩ := List.forall_mem_cons.mp noNul
        rw [List.flatMap_cons, List.flatMap_append, shown_pieces first, ih others, List.flatMap_cons,
          Utf16.encode_append]
  · have handed := pieces_handedOver text
    have clean := encode_noNul (noNul text member)
    exact ⟨handed, handed.each clean, handed.beforeLast clean⟩

/-- The first unit of a surrogate pair ends one piece and the second one starts the next. -/
theorem pieces_lossless_split :
    let text := String.ofList (List.replicate 63 'a' ++ ['𝄞', 'b'])
    (["", text].flatMap (pieces true)).flatMap shown = List.replicate 63 0x61 ++ [0xd834, 0xdd1e, 0x62] ∧
      ∀ cells ∈ (pieces true text).dropLast, (shown cells).length = 64 := by
  intro text
  have noNul : ∀ listed ∈ ["", text], '\x00' ∉ listed.toList := by
    simp only [text, List.forall_mem_cons, String.toList_ofList]
    decide
  obtain ⟨whole, each, -⟩ := pieces_lossless ["", text] noNul
  have units : Utf16.encode (["", text].flatMap String.toList) =
      List.replicate 63 0x61 ++ [0xd834, 0xdd1e, 0x62] := by
    simp only [text, List.flatMap_cons, List.flatMap_nil, String.toList_ofList]
    decide
  exact ⟨whole.trans units, (each text (List.mem_cons_of_mem _ (List.mem_singleton_self text))).2.2⟩

end EfiHandoff.Console
