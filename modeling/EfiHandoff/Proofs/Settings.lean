import EfiHandoff.Proofs.Text.Numeral
import EfiHandoff.Settings

/-!
# The grammar of the settings

Which values of the environment change which setting, and to what. Everything else leaves the setting as it is by
default.
-/

set_option autoImplicit false

namespace EfiHandoff.Settings

section Values

/-- How a size is written: in decimal, or in hexadecimal behind a marker. -/
inductive WritesSize : List Char → Nat → Prop where
  | decimal {word : List Char} {size : Nat} (numeral : Text.Unsigned 10 word size) : WritesSize word size
  | hexadecimal {marker : Char} {word : List Char} {size : Nat} (mark : marker = 'x' ∨ marker = 'X')
      (numeral : Text.Unsigned 16 word size) : WritesSize ('0' :: marker :: word) size

/-- A stretch of a list with no separator inside, from one separator or the start of the list to the next separator
or its end. -/
structure PieceOf (value piece : List Char) : Prop where
  undivided : ∀ char ∈ piece, char ∉ [',', ' ']
  bounded : ∃ before after, value = before ++ piece ++ after ∧
    (before = [] ∨ ∃ front, ∃ separator ∈ [',', ' '], before = front ++ [separator]) ∧
      (after = [] ∨ ∃ separator ∈ [',', ' '], ∃ back, after = separator :: back)

variable {value : List Char}

private theorem decimal_not_marked {marker : Char} {word : List Char} {size : Nat}
    (mark : marker = 'x' ∨ marker = 'X') :
    ¬Text.Unsigned 10 ('0' :: marker :: word) size := by
  rintro ⟨numeral, whole, -, digits, areDigits, -⟩
  obtain rfl : '0' :: marker :: word = numeral := whole.resolve_right fun plus => by simp at plus
  obtain _ | ⟨-, _ | ⟨⟨isDigit, below⟩, -⟩⟩ := areDigits
  have codes : '0'.toNat = 48 ∧ 'a'.toNat = 97 ∧ 'A'.toNat = 65 ∧ 'x'.toNat = 120 ∧ 'X'.toNat = 88 := by decide
  rcases mark with rfl | rfl <;> cases isDigit <;> omega

theorem writesSize_marked_iff {marker : Char} {word : List Char} {size : Nat} (mark : marker = 'x' ∨ marker = 'X') :
    WritesSize ('0' :: marker :: word) size ↔ Text.Unsigned 16 word size := by
  constructor
  · rintro (numeral | ⟨-, numeral⟩)
    · exact absurd numeral (decimal_not_marked mark)
    · exact numeral
  · exact .hexadecimal mark

theorem size?_eq_some_iff {size : Nat} :
    size? value = some size ↔ ∃ word, Text.Trimmed value word ∧ WritesSize word size ∧ size < wordLimit := by
  have ofWord (word : List Char) (trimmed : Text.trim value = word) :
      (∃ word, Text.Trimmed value word ∧ WritesSize word size ∧ size < wordLimit) ↔
        WritesSize word size ∧ size < wordLimit := by
    simp [← Text.trim_eq_iff, trimmed]
  unfold size?
  split
  · next digits trimmed =>
      rw [ofWord _ trimmed, Text.readUnsigned?_eq_some_iff, writesSize_marked_iff (.inl rfl)]
  · next digits trimmed =>
      rw [ofWord _ trimmed, Text.readUnsigned?_eq_some_iff, writesSize_marked_iff (.inr rfl)]
  · next lower upper =>
      rw [ofWord _ rfl, Text.readUnsigned?_eq_some_iff]
      refine and_congr_left fun _ => ⟨.decimal, fun writes => ?_⟩
      generalize trimmed : Text.trim value = word at writes lower upper
      cases writes with
      | decimal numeral => exact numeral
      | hexadecimal mark =>
          rcases mark with rfl | rfl
          · exact absurd rfl (lower _)
          · exact absurd rfl (upper _)

example : size? ['\t', '0', 'X', '+', '1', 'f', ' '] = some 0x1f := by decide

theorem flag?_eq_some_true_iff :
    flag? value = some true ↔
      ∃ word, Text.Trimmed value word ∧ String.ofList word ∈ ["1", "true", "yes", "on"] := by
  unfold flag?
  dsimp only
  constructor
  · intro set
    split at set
    · next named => exact ⟨Text.trim value, Text.trim_eq_iff.mp rfl, named⟩
    · split at set <;> simp at set
  · rintro ⟨word, trimmed, named⟩
    rw [Text.trim_eq_iff.mpr trimmed, if_pos named]

end Values

section Pieces

variable {value piece before after : List Char} {separator : Char}

theorem isSeparator_iff {char : Char} : isSeparator char = true ↔ char ∈ [',', ' '] := by
  simp [isSeparator]

private theorem pieces_ne_nil (value : List Char) : pieces value ≠ [] := by
  cases value with
  | nil => exact List.cons_ne_nil _ _
  | cons char rest =>
      unfold pieces
      split
      · exact List.cons_ne_nil _ _
      · split <;> exact List.cons_ne_nil _ _

/-- A separator ends the piece before it, and the next one starts behind it. -/
theorem pieces_append_separator (separates : separator ∈ [',', ' ']) (before after : List Char) :
    pieces (before ++ separator :: after) = pieces before ++ pieces after := by
  induction before with
  | nil =>
      rw [List.nil_append, pieces.eq_2, if_pos (isSeparator_iff.mpr separates)]
      rfl
  | cons char before ih =>
      obtain ⟨first, others, cut⟩ := List.exists_cons_of_ne_nil (pieces_ne_nil before)
      rw [List.cons_append, pieces, pieces, ih, cut]
      split <;> rfl

private theorem pieces_of_undivided (undivided : ∀ char ∈ piece, char ∉ [',', ' ']) : pieces piece = [piece] := by
  induction piece with
  | nil => rfl
  | cons char piece ih =>
      obtain ⟨within, rest⟩ := List.forall_mem_cons.mp undivided
      rw [pieces, if_neg (within ∘ isSeparator_iff.mp), ih rest]

theorem PieceOf.whole (undivided : ∀ char ∈ piece, char ∉ [',', ' ']) : PieceOf piece piece :=
  ⟨undivided, [], [], (List.append_nil piece).symm, .inl rfl, .inl rfl⟩

private theorem PieceOf.inFront (undivided : ∀ char ∈ piece, char ∉ [',', ' ']) (separates : separator ∈ [',', ' '])
    (after : List Char) : PieceOf (piece ++ separator :: after) piece :=
  ⟨undivided, [], separator :: after, rfl, .inl rfl, .inr ⟨separator, separates, after, rfl⟩⟩

theorem PieceOf.behind (pieceOf : PieceOf after piece) (separates : separator ∈ [',', ' ']) (before : List Char) :
    PieceOf (before ++ separator :: after) piece := by
  obtain ⟨undivided, inner, back, rfl, opens, closes⟩ := pieceOf
  refine ⟨undivided, before ++ separator :: inner, back, ?_, .inr ?_, closes⟩
  · simp only [List.append_assoc, List.cons_append]
  · rcases opens with rfl | ⟨front, last, separatesToo, rfl⟩
    · exact ⟨before, separator, separates, rfl⟩
    · refine ⟨before ++ separator :: front, last, separatesToo, ?_⟩
      rw [List.append_assoc, List.cons_append]

/-- Either there is no separator at all, or there is a first one. -/
theorem undivided_or_split (value : List Char) :
    (∀ char ∈ value, char ∉ [',', ' ']) ∨ ∃ first separator rest,
      value = first ++ separator :: rest ∧ (∀ char ∈ first, char ∉ [',', ' ']) ∧ separator ∈ [',', ' '] := by
  induction value with
  | nil => exact .inl fun char member => absurd member List.not_mem_nil
  | cons char value ih =>
      by_cases separates : char ∈ [',', ' ']
      · exact .inr ⟨[], char, value, rfl, fun other member => absurd member List.not_mem_nil, separates⟩
      · rcases ih with undivided | ⟨first, separator, rest, rfl, undivided, separatesThere⟩
        · exact .inl (List.forall_mem_cons.mpr ⟨separates, undivided⟩)
        · exact .inr ⟨char :: first, separator, rest, rfl, List.forall_mem_cons.mpr ⟨separates, undivided⟩,
            separatesThere⟩

private theorem pieceOf_of_mem {value : List Char} (member : piece ∈ pieces value) : PieceOf value piece := by
  rcases undivided_or_split value with undivided | ⟨first, separator, rest, cut, undivided, separates⟩
  · rw [pieces_of_undivided undivided, List.mem_singleton] at member
    rw [member]
    exact .whole undivided
  · subst cut
    rw [pieces_append_separator separates, pieces_of_undivided undivided, List.singleton_append,
      List.mem_cons] at member
    rcases member with rfl | later
    · exact .inFront undivided separates rest
    · exact (pieceOf_of_mem later).behind separates first
termination_by value.length
decreasing_by
  rw [cut, List.length_append, List.length_cons]
  omega

theorem PieceOf.mem (pieceOf : PieceOf value piece) : piece ∈ pieces value := by
  obtain ⟨undivided, before, after, rfl, opens, closes⟩ := pieceOf
  have closed : piece ∈ pieces (piece ++ after) := by
    have alone : piece ∈ pieces piece := by
      rw [pieces_of_undivided undivided]
      exact List.mem_singleton_self piece
    rcases closes with rfl | ⟨separator, separates, back, rfl⟩
    · rwa [List.append_nil]
    · rw [pieces_append_separator separates]
      exact List.mem_append_left _ alone
  rcases opens with rfl | ⟨front, separator, separates, rfl⟩
  · exact closed
  · rw [List.append_assoc, List.append_assoc, List.singleton_append, pieces_append_separator separates]
    exact List.mem_append_right _ closed

theorem namesLoader_iff :
    namesLoader value = true ↔
      ∃ piece, PieceOf value piece ∧ (piece = "chain".toList ∨ piece = "all".toList) := by
  rw [namesLoader, List.any_eq_true]
  refine exists_congr fun piece => and_congr ⟨pieceOf_of_mem, PieceOf.mem⟩ ?_
  rw [Bool.or_eq_true, beq_iff_eq, beq_iff_eq]

end Pieces

section Environment

def Limits (lookup : String → Option (List Char)) (size : Nat) : Prop :=
  ∃ value, lookup "chain_max_image_size" = some value ∧
    ∃ word, Text.Trimmed value word ∧ WritesSize word size ∧ 1 ≤ size ∧ size < 2 ^ 64

def Forces (lookup : String → Option (List Char)) : Prop :=
  ∃ value, lookup "chain_debug_secureboot" = some value ∧
    ∃ word, Text.Trimmed value word ∧ String.ofList word ∈ ["1", "true", "yes", "on"]

def Debugs (lookup : String → Option (List Char)) : Prop :=
  ∃ value, lookup "debug" = some value ∧
    ∃ piece, PieceOf value piece ∧ (piece = "chain".toList ∨ piece = "all".toList)

private theorem withDebug_eq (settings : Settings) (value : Option (List Char)) :
    settings.withDebug value =
      { settings with level := if value.any namesLoader then some .debug else settings.level } := by
  cases value with
  | none => rfl
  | some value =>
      rw [withDebug, Option.any_some]
      split <;> rfl

private theorem withForce_eq (settings : Settings) (value : Option (List Char)) :
    (settings.withForce value).1 =
      { settings with forceValidated := (value.bind flag?).getD settings.forceValidated } := by
  cases value with
  | none => rfl
  | some value =>
      rw [withForce, Option.bind_some]
      cases flag? value <;> rfl

def limit? (value : List Char) : Option UInt64 := ((size? value).filter (0 < ·)).map UInt64.ofNat

private theorem withLimit_eq (settings : Settings) (value : Option (List Char)) :
    (settings.withLimit value).1 =
      { settings with maxImageSize := (value.bind limit?).getD settings.maxImageSize } := by
  cases value with
  | none => rfl
  | some value =>
      rw [withLimit, Option.bind_some, limit?]
      rcases size? value with _ | _ | size <;> rfl

/-- Each setting as a function of its own variable. -/
theorem ofEnvironment_eq (lookup : String → Option (List Char)) :
    (ofEnvironment lookup).1 =
      { forceValidated := ((lookup "chain_debug_secureboot").bind flag?).getD ({} : Settings).forceValidated
        level := if (lookup "debug").any namesLoader then some .debug else ({} : Settings).level
        maxImageSize := ((lookup "chain_max_image_size").bind limit?).getD ({} : Settings).maxImageSize
        universalBinaries := ({} : Settings).universalBinaries } := by
  simp only [ofEnvironment, withLimit_eq, withForce_eq, withDebug_eq]

theorem limit?_eq_some_iff {value : List Char} {limit : UInt64} :
    limit? value = some limit ↔ size? value = some limit.toNat ∧ 0 < limit.toNat := by
  simp only [limit?, Option.map_eq_some_iff, Option.filter_eq_some_iff, decide_eq_true_iff]
  constructor
  · rintro ⟨size, ⟨read, positive⟩, rfl⟩
    obtain ⟨-, -, -, small⟩ := size?_eq_some_iff.mp read
    rw [UInt64.toNat_ofNat_of_lt' small]
    exact ⟨read, positive⟩
  · rintro set
    exact ⟨limit.toNat, set, UInt64.ofNat_toNat⟩

theorem limits_iff {lookup : String → Option (List Char)} {size : Nat} :
    Limits lookup size ↔ ∃ limit, (lookup "chain_max_image_size").bind limit? = some limit ∧ limit.toNat = size := by
  constructor
  · rintro ⟨value, present, word, trimmed, writes, positive, small⟩
    have same : (UInt64.ofNat size).toNat = size := UInt64.toNat_ofNat_of_lt' small
    refine ⟨UInt64.ofNat size, ?_, same⟩
    rw [present, Option.bind_some, limit?_eq_some_iff, same]
    exact ⟨size?_eq_some_iff.mpr ⟨word, trimmed, writes, small⟩, positive⟩
  · rintro ⟨limit, set, rfl⟩
    obtain ⟨value, present, read⟩ := Option.bind_eq_some_iff.mp set
    obtain ⟨sized, positive⟩ := limit?_eq_some_iff.mp read
    obtain ⟨word, trimmed, writes, small⟩ := size?_eq_some_iff.mp sized
    exact ⟨value, present, word, trimmed, writes, positive, small⟩

theorem forces_iff {lookup : String → Option (List Char)} :
    Forces lookup ↔ (lookup "chain_debug_secureboot").bind flag? = some true := by
  rw [Option.bind_eq_some_iff]
  exact exists_congr fun value => and_congr_right fun _ => flag?_eq_some_true_iff.symm

theorem debugs_iff {lookup : String → Option (List Char)} :
    Debugs lookup ↔ (lookup "debug").any namesLoader = true := by
  rw [Option.any_eq_true]
  exact exists_congr fun value => and_congr_right fun _ => namesLoader_iff.symm

/-- Which environment sets what. A limit is what the trimmed value writes, in decimal or in hexadecimal, with a plus
sign or without; the validated way is asked for by four words, and the debugging reports by a piece of a list. In every
other environment the settings are the default ones, and none depends on the variable of another. -/
theorem ofEnvironment_grammar (lookup : String → Option (List Char)) :
    let settings : Settings := (ofEnvironment lookup).1
    (∀ size, settings.maxImageSize.toNat = size ↔
      Limits lookup size ∨ size = ({} : Settings).maxImageSize.toNat ∧ ∀ other, ¬Limits lookup other) ∧
    (settings.forceValidated = true ↔ Forces lookup) ∧
    (settings.level = some .debug ↔ Debugs lookup) ∧
    (¬Debugs lookup → settings.level = ({} : Settings).level) ∧
    settings.universalBinaries = ({} : Settings).universalBinaries ∧
    ∀ other,
      (lookup "chain_max_image_size" = other "chain_max_image_size" →
        settings.maxImageSize = (ofEnvironment other).1.maxImageSize) ∧
      (lookup "chain_debug_secureboot" = other "chain_debug_secureboot" →
        settings.forceValidated = (ofEnvironment other).1.forceValidated) ∧
      (lookup "debug" = other "debug" → settings.level = (ofEnvironment other).1.level) := by
  intro settings
  have byVariable : settings = _ := ofEnvironment_eq lookup
  refine ⟨fun size => ?_, ?_, ?_, ?_, ?_, fun other => ⟨?_, ?_, ?_⟩⟩
  · simp only [byVariable, limits_iff]
    cases (lookup "chain_max_image_size").bind limit? with
    | none => simp [eq_comm]
    | some limit => simp
  · simp only [byVariable, forces_iff]
    rcases (lookup "chain_debug_secureboot").bind flag? with _ | _ | _ <;> decide
  · simp only [byVariable, debugs_iff]
    cases (lookup "debug").any namesLoader <;> decide
  · intro unset
    rw [byVariable, if_neg (unset ∘ debugs_iff.mpr)]
  · rw [byVariable]
  · intro same
    simp only [byVariable, ofEnvironment_eq, same]
  · intro same
    simp only [byVariable, ofEnvironment_eq, same]
  · intro same
    simp only [byVariable, ofEnvironment_eq, same]

end Environment

end EfiHandoff.Settings
