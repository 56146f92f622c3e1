import EfiHandoff.Proofs.Reservation
import EfiHandoff.Proofs.Text.Utf16
import Mathlib.Data.List.TakeWhile

/-!
# Load options and exit texts, read back

The text that is kept of exit data is the longest beginning that there is room for. Load options are the text of the
arguments with spaces between them, and where that text has room it is what exit data of the same units would show.
-/

set_option autoImplicit false

namespace EfiHandoff.LoadOptions

/-- What is kept of a text where there is room for so many bytes of UTF-8: as many whole characters as fit. -/
structure LongestBeginning (room : Nat) (text : List Char) (kept : String) : Prop where
  begins : kept.toList <+: text
  fits : kept.utf8ByteSize ≤ room
  longest : ∀ other : String, other.toList <+: text → other.utf8ByteSize ≤ room → other.toList <+: kept.toList
  /-- The first character that is left out would be too much. -/
  stops : ∀ char, kept.toList ++ [char] <+: text → room < (kept.push char).utf8ByteSize

section Fitting

variable {room : Nat} {text : List Char}

private theorem fitting_begins (room : Nat) (text : List Char) : fitting room text <+: text := by
  induction text generalizing room with
  | nil => exact List.prefix_rfl
  | cons char text ih =>
      unfold fitting
      split
      · exact List.prefix_cons_inj char |>.mpr (ih _)
      · exact List.nil_prefix

private theorem utf8ByteSize_cons (char : Char) (text : List Char) :
    (String.ofList (char :: text)).utf8ByteSize = char.utf8Size + (String.ofList text).utf8ByteSize := by
  rw [String.ofList_cons, String.utf8ByteSize_append, String.utf8ByteSize_singleton]

private theorem fitting_fits (room : Nat) (text : List Char) :
    (String.ofList (fitting room text)).utf8ByteSize ≤ room := by
  induction text generalizing room with
  | nil => exact Nat.zero_le room
  | cons char text ih =>
      unfold fitting
      split
      · next fits =>
          have rest := ih (room - char.utf8Size)
          rw [utf8ByteSize_cons]
          omega
      · exact Nat.zero_le room

private theorem prefix_fitting {other : List Char} (begins : other <+: text)
    (fits : (String.ofList other).utf8ByteSize ≤ room) : other <+: fitting room text := by
  induction text generalizing room other with
  | nil => exact begins
  | cons char text ih =>
      cases other with
      | nil => exact List.nil_prefix
      | cons first other =>
          obtain ⟨rfl, behind⟩ := List.cons_prefix_cons.mp begins
          rw [utf8ByteSize_cons] at fits
          rw [fitting, if_pos (by omega)]
          exact (List.prefix_cons_inj first).mpr (ih behind (by omega))

theorem fitting_longest (room : Nat) (text : List Char) :
    LongestBeginning room text (String.ofList (fitting room text)) := by
  have longest (other : String) (begins : other.toList <+: text) (fits : other.utf8ByteSize ≤ room) :
      other.toList <+: (String.ofList (fitting room text)).toList := by
    rw [String.toList_ofList]
    exact prefix_fitting begins (by rwa [String.ofList_toList])
  refine ⟨?_, fitting_fits room text, longest, ?_⟩
  · rw [String.toList_ofList]
    exact fitting_begins room text
  · intro char begins
    by_contra fits
    have kept := longest (String.push _ char) (by rwa [String.toList_push]) (Nat.le_of_not_lt fits)
    have longer := kept.length_le
    rw [String.toList_push, List.length_append, List.length_singleton] at longer
    exact Nat.not_succ_le_self _ longer

/-- A text that there is room for is kept in full. -/
theorem fitting_of_fits (fits : (String.ofList text).utf8ByteSize ≤ room) : fitting room text = text :=
  (fitting_begins room text).eq_of_length_le (prefix_fitting List.prefix_rfl fits).length_le

end Fitting

section Nul

private theorem untilNul_untilNul (units : List UInt16) :
    Utf16.untilNul (Utf16.untilNul units) = Utf16.untilNul units :=
  List.takeWhile_idem

/-- It does not matter whether exit data were cut at their first NUL before. -/
theorem exitText_untilNul (units : List UInt16) : exitText (Utf16.untilNul units) = exitText units := by
  unfold exitText
  rw [untilNul_untilNul]

/-- The units of a text and a NUL are read as that text, if it has no NUL itself and there is room for it. -/
theorem exitText_encode {text : List Char} (inner : '\x00' ∉ text)
    (fits : (String.ofList text).utf8ByteSize ≤ maxExitText) :
    exitText (Utf16.encode text ++ [0]) = String.ofList text := by
  have whole : text.takeWhile (· ≠ '\x00') = text :=
    List.takeWhile_eq_self_iff.mpr fun char member => decide_eq_true fun nul => inner (nul ▸ member)
  rw [exitText, Utf16.untilNul_encode, whole, Utf16.decode_encode, fitting_of_fits fits]

end Nul

section Options

variable {arguments : List (List Char)}

private theorem joined_eq (arguments : List (List Char)) :
    joined arguments = Utf16.encode ([' '].intercalate arguments) := by
  induction arguments with
  | nil => rfl
  | cons argument rest ih =>
      cases rest with
      | nil => rw [joined, List.intercalate_singleton]
      | cons other rest =>
          rw [joined, ih, List.intercalate_cons_cons, Utf16.encode_append, Utf16.encode_append, List.append_assoc]
          · rfl
          · exact List.cons_ne_nil other rest

/-- A character of the arguments with spaces between them is a space or in one of them. -/
theorem mem_intercalate {char : Char} (member : char ∈ [' '].intercalate arguments) :
    char = ' ' ∨ ∃ argument ∈ arguments, char ∈ argument := by
  induction arguments with
  | nil => nomatch member
  | cons argument rest ih =>
      cases rest with
      | nil => exact .inr ⟨argument, List.mem_singleton_self _, by rwa [List.intercalate_singleton] at member⟩
      | cons other rest =>
          rw [List.intercalate_cons_cons, List.append_assoc, List.mem_append, List.mem_append] at member
          rcases member with inFirst | isSpace | inRest
          · exact .inr ⟨argument, List.mem_cons_self, inFirst⟩
          · exact .inl (List.mem_singleton.mp isSpace)
          · exact (ih inRest).imp_right fun ⟨found, listed, inside⟩ => ⟨found, List.mem_cons_of_mem _ listed, inside⟩

/-- What load options hold: the text of the arguments with a space between neighbours, and a NUL. -/
def unitsOf (arguments : List (List Char)) : List UInt16 := Utf16.encode ([' '].intercalate arguments) ++ [0]

theorem encode_eq (limit : MemoryLimit) (nonempty : arguments ≠ []) :
    encode limit arguments = if limit.grants (2 * (unitsOf arguments).length) then .ok (some (unitsOf arguments))
      else .error ⟨2 * (unitsOf arguments).length⟩ := by
  have written : joined arguments ++ [0] = unitsOf arguments := by rw [joined_eq, unitsOf]
  have wanted : reservation arguments = (unitsOf arguments).length := by
    rw [← written, List.length_append, List.length_singleton, length_joined nonempty]
  rw [encode_of_nonempty limit nonempty, written, wanted]

theorem encode_eq_none_iff {limit : MemoryLimit} : encode limit arguments = .ok none ↔ arguments = [] := by
  constructor
  · intro made
    by_contra nonempty
    rw [encode_eq limit nonempty] at made
    split at made <;> nomatch made
  · rintro rfl
    rfl

private theorem sizeInBytes_toNat {options : List UInt16} (short : options.length < 0x80000000) :
    (sizeInBytes options).toNat = 2 * options.length := by
  rw [sizeInBytes, UInt32.toNat_ofNat_of_lt' (by unfold UInt32.size; omega), Nat.mul_comm]

private theorem exitText_unitsOf (clean : ∀ argument ∈ arguments, '\x00' ∉ argument)
    (fits : (String.ofList ([' '].intercalate arguments)).utf8ByteSize ≤ maxExitText) :
    exitText (unitsOf arguments) = String.ofList ([' '].intercalate arguments) := by
  refine exitText_encode (fun nul => ?_) fits
  rcases mem_intercalate nul with isSpace | ⟨argument, listed, inside⟩
  · exact absurd isSpace (by decide)
  · exact clean argument listed inside

/-- Load options are there when there are arguments. They are the units of the arguments with a space between
neighbours, and a NUL, and memory for as many bytes as they have is all that may be wanting. As exit data they would
show the arguments, if no NUL is in them and their text is not cut. -/
theorem encode_reads_back :
    (∀ limit arguments, encode limit arguments = .ok none ↔ arguments = []) ∧
    (∀ (limit : MemoryLimit) arguments, arguments ≠ [] →
      encode limit arguments = if limit.grants (2 * (unitsOf arguments).length) then .ok (some (unitsOf arguments))
        else .error ⟨2 * (unitsOf arguments).length⟩) ∧
    (∀ options, options.length < 0x80000000 → (sizeInBytes options).toNat = 2 * options.length) ∧
    ∀ limit arguments options, encode limit arguments = .ok (some options) →
      (∀ argument ∈ arguments, '\x00' ∉ argument) →
      (String.ofList ([' '].intercalate arguments)).utf8ByteSize ≤ 128 →
      exitText options = String.ofList ([' '].intercalate arguments) := by
  refine ⟨fun _ _ => encode_eq_none_iff, fun limit _ => encode_eq limit, fun _ => sizeInBytes_toNat, ?_⟩
  intro limit arguments options made clean fits
  have nonempty : arguments ≠ [] := fun empty => nomatch made.symm.trans (encode_eq_none_iff.mpr empty)
  rw [encode_eq limit nonempty] at made
  split at made
  · cases made
    exact exitText_unitsOf clean fits
  · nomatch made

/-- An argument without a character leaves two spaces next to each other, and the last argument needs a surrogate pair:
the text of nine bytes is read back from fourteen bytes of load options. -/
theorem encode_reads_back_pair :
    let arguments := [['a'], [], ['𝄞', 'é']]
    let options : List UInt16 := [0x61, 0x20, 0x20, 0xd834, 0xdd1e, 0xe9, 0]
    encode (some 14) arguments = .ok (some options) ∧ encode (some 13) arguments = .error ⟨14⟩ ∧
      (sizeInBytes options).toNat = 14 ∧ exitText options = "a  𝄞é" := by
  obtain ⟨-, granted, size, back⟩ := encode_reads_back
  have made : encode (some 14) [['a'], [], ['𝄞', 'é']] = .ok (some [0x61, 0x20, 0x20, 0xd834, 0xdd1e, 0xe9, 0]) :=
    granted _ _ (List.cons_ne_nil _ _)
  exact ⟨made, granted _ _ (List.cons_ne_nil _ _), size _ (by decide), back _ _ _ made (by decide) (by decide +kernel)⟩

end Options

end EfiHandoff.LoadOptions
