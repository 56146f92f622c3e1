import EfiHandoff.LoadOptions
import EfiHandoff.Proofs.DevicePath.FilePathBytes

/-!
# Memory that is set aside

Device paths and load options are written once more, piece by piece, into memory that was set aside before, where a
piece that does not fit stops the writing. That no piece ever does is proved: one request is enough, and its refusal
is the only way to run out of memory.
-/

set_option autoImplicit false

namespace EfiHandoff

inductive HeapGuard (φ : Type)
  | reported (fault : φ)
  /-- The memory that was set aside is used up. -/
  | grown
deriving DecidableEq, Repr

/-- Memory with room for `room` items, of which some are written. -/
structure Reserved (α : Type) where
  room : Nat
  written : List α

namespace Reserved

variable {α φ : Type} {buffer : Reserved α} {items : List α} {pieces : List (List α)}

def extend (buffer : Reserved α) (items : List α) : Except (HeapGuard φ) (Reserved α) :=
  if buffer.written.length + items.length ≤ buffer.room then
    .ok { buffer with written := buffer.written ++ items }
  else .error .grown

def extendAll (buffer : Reserved α) (pieces : List (List α)) : Except (HeapGuard φ) (Reserved α) :=
  pieces.foldlM extend buffer

private theorem extend_of_fits (fits : buffer.written.length + items.length ≤ buffer.room) :
    (buffer.extend items : Except (HeapGuard φ) _) = .ok ⟨buffer.room, buffer.written ++ items⟩ := if_pos fits

private theorem extendAll_of_fits (fits : buffer.written.length + pieces.flatten.length ≤ buffer.room) :
    (buffer.extendAll pieces : Except (HeapGuard φ) _) = .ok ⟨buffer.room, buffer.written ++ pieces.flatten⟩ := by
  unfold extendAll
  induction pieces generalizing buffer with
  | nil => simp [pure, Except.pure]
  | cons piece pieces ih =>
      simp only [List.flatten_cons, List.length_append] at fits
      rw [List.foldlM_cons, extend_of_fits (by omega)]
      have rest := @ih ⟨buffer.room, buffer.written ++ piece⟩ (by simp only [List.length_append]; omega)
      rw [List.flatten_cons, ← List.append_assoc]
      exact rest

end Reserved

namespace DevicePath

section Units

/-- No character has more units in UTF-16 than bytes in UTF-8. -/
theorem length_encodeChar_le (char : Char) : (Utf16.encodeChar char).length ≤ char.utf8Size := by
  unfold Utf16.encodeChar
  split
  · exact Char.utf8Size_pos char
  · next beyond =>
      have four : char.utf8Size = 4 :=
        Char.utf8Size_eq_four_iff.mpr (UInt32.lt_iff_toNat_lt.mpr (Nat.lt_of_succ_le (Nat.le_of_not_lt beyond)))
      rw [four]
      exact Nat.le_add_left 2 2

private theorem unitCount_le (name : List Char) : unitCount name ≤ utf8Length name := by
  induction name with
  | nil => exact Nat.le_refl 0
  | cons char name ih =>
      have first := length_encodeChar_le char
      simp only [unitCount, Utf16.encode, List.flatMap_cons, List.length_append, utf8Length] at ih ⊢
      omega

end Units

def componentPieces (component : List Char) : List Bytes :=
  [[mediaType], [filePathSubtype], Bytes.ofNat 2 (headerSize + 2 * (unitCount component + 1))] ++
    (Utf16.encode component).map (fun unit => Utf16.toBytes [if unit = 0x2f then 0x5c else unit]) ++
    [Utf16.toBytes [0]]

def writeComponent (buffer : Reserved UInt8) (component : List Char) :
    Except (HeapGuard FilePathFault) (Reserved UInt8) :=
  let units := unitCount component + 1
  if headerSize + 2 * units < nodeSizeLimit then buffer.extendAll (componentPieces component)
  else .error (.reported (.tooLong units))

/-- Writes the device path of a file into memory that is requested once. -/
def writePath (limit : MemoryLimit) (device : Bytes) (path : List Char) : Except (HeapGuard FilePathFault) Bytes := do
  let (directory, file) ← (splitPath path).mapError .reported
  let devicePart ← (sizeWithoutEnd device).mapError fun fault => .reported (.device fault)
  let wanted := reservation devicePart directory file
  if !limit.grants wanted then throw (.reported (.refused wanted))
  let buffer ← Reserved.extend ⟨wanted, []⟩ (device.take devicePart)
  let buffer ← writeComponent buffer directory
  let buffer ← writeComponent buffer file
  let buffer ← buffer.extend endNode
  return buffer.written

section Paths

variable {limit : MemoryLimit} {device built : Bytes} {path directory file name : List Char} {size : Nat}
  {buffer : Reserved UInt8}

private theorem flatten_componentPieces (name : List Char) : (componentPieces name).flatten = nameRecord name := by
  have payload : Utf16.toBytes (nameUnits name) = namePayload name := congrArg Utf16.toBytes (nameUnits_eq name)
  unfold componentPieces nameRecord
  rw [← payload]
  simp [nameUnits, Utf16.toBytes, List.flatMap, mediaType, filePathSubtype, headerSize, Function.comp_def]

private theorem length_nameRecord (name : List Char) : (nameRecord name).length = 4 + 2 * (unitCount name + 1) := by
  rw [← @encode_nameNode name 0, Node.length_encode, size_nameNode, length_nameUnits, headerSize]

private theorem writeComponent_of_long (long : 32764 < unitCount name) :
    writeComponent buffer name = .error (.reported (.tooLong (unitCount name + 1))) :=
  if_neg (by unfold headerSize nodeSizeLimit; omega)

private theorem writeComponent_of_fits (short : unitCount name ≤ 32764)
    (fits : buffer.written.length + (4 + 2 * (unitCount name + 1)) ≤ buffer.room) :
    writeComponent buffer name = .ok ⟨buffer.room, buffer.written ++ nameRecord name⟩ := by
  unfold writeComponent
  dsimp only
  rw [if_pos (by unfold headerSize nodeSizeLimit; omega), Reserved.extendAll_of_fits, flatten_componentPieces]
  rwa [flatten_componentPieces, length_nameRecord]

private theorem length_filePathBytes_le (size : Nat) (directory file : List Char) :
    (filePathBytes device size directory file).length ≤ reservation size directory file := by
  have prefixed : (device.take size).length ≤ size := List.length_take_le _ _
  have inDirectory := unitCount_le directory
  have inFile := unitCount_le file
  simp only [filePathBytes, List.length_append, length_nameRecord, reservation, headerSize, endNode, List.length_cons,
    List.length_nil]
  omega

private theorem writePath_of_named (named : Named directory file path) (sized : sizeWithoutEnd device = .ok size) :
    writePath limit device path =
      (if !limit.grants (reservation size directory file) then .error (.refused (reservation size directory file))
      else if 32764 < unitCount directory then .error (.tooLong (unitCount directory + 1))
      else if 32764 < unitCount file then .error (.tooLong (unitCount file + 1))
      else .ok (filePathBytes device size directory file) : Except FilePathFault Bytes).mapError .reported := by
  have whole := @length_filePathBytes_le device size directory file
  simp only [filePathBytes, List.length_append, length_nameRecord, List.length_cons, List.length_nil] at whole
  unfold writePath
  rw [named.splitPath, sized]
  dsimp only [bind, Except.bind, Except.mapError]
  cases granted : limit.grants (reservation size directory file) with
  | false => rfl
  | true =>
      rw [Bool.not_true, if_neg Bool.false_ne_true, if_neg Bool.false_ne_true]
      dsimp only [pure, Except.pure]
      rw [Reserved.extend_of_fits (by simp only [List.length_nil]; omega)]
      dsimp only
      by_cases long : 32764 < unitCount directory
      · rw [writeComponent_of_long long, if_pos long]
      · rw [writeComponent_of_fits (Nat.le_of_not_lt long) (by simp only [List.nil_append]; omega), if_neg long]
        dsimp only
        by_cases long : 32764 < unitCount file
        · rw [writeComponent_of_long long, if_pos long]
        · rw [writeComponent_of_fits (Nat.le_of_not_lt long)
            (by simp only [List.nil_append, List.length_append, length_nameRecord]; omega), if_neg long]
          dsimp only
          rw [Reserved.extend_of_fits (by
            simp only [List.nil_append, List.length_append, length_nameRecord, endNode, List.length_cons,
              List.length_nil]
            omega)]
          rfl

/-- Written piece by piece into memory that is requested once, a device path comes out as it is built. -/
theorem writePath_eq (limit : MemoryLimit) (device : Bytes) (path : List Char) :
    writePath limit device path = (ofFile limit device path).mapError .reported := by
  rcases named_or_flat path with ⟨directory, file, named⟩ | flat
  · cases sized : sizeWithoutEnd device with
    | error fault =>
        unfold writePath ofFile
        rw [named.splitPath, sized]
        rfl
    | ok size => rw [writePath_of_named named sized, ofFile_of_named named sized]
  · unfold writePath ofFile
    rw [flat.splitPath]
    rfl

end Paths

end DevicePath

namespace LoadOptions

open DevicePath (unitCount)

def argumentPieces (index : Nat) (argument : List Char) : List (List UInt16) :=
  (if 0 < index then [[0x20]] else []) ++ (Utf16.encode argument).map fun unit => [unit]

def writeOptions (limit : MemoryLimit) (arguments : List (List Char)) :
    Except (HeapGuard Refused) (Option (List UInt16)) :=
  if arguments.isEmpty then .ok none
  else if !limit.grants (2 * reservation arguments) then .error (.reported ⟨2 * reservation arguments⟩)
  else do
    let buffer ← Reserved.extendAll ⟨reservation arguments, []⟩ (arguments.mapIdx argumentPieces).flatten
    let buffer ← buffer.extend [0]
    return some buffer.written

private theorem joined_cons (argument : List Char) (rest : List (List Char)) :
    joined (argument :: rest) = Utf16.encode argument ++ rest.flatMap fun other => 0x20 :: Utf16.encode other := by
  induction rest generalizing argument with
  | nil => simp [joined]
  | cons other rest ih => rw [joined, ih, List.flatMap_cons, List.cons_append]; nofun

private theorem flatten_argumentPieces (arguments : List (List Char)) :
    (arguments.mapIdx argumentPieces).flatten.flatten = joined arguments := by
  have units (text : List Char) : ((Utf16.encode text).map fun unit => [unit]).flatten = Utf16.encode text := by
    simp [← List.flatMap_def]
  cases arguments with
  | nil => rfl
  | cons argument rest =>
      have behind : rest.mapIdx (fun index => argumentPieces (index + 1)) =
          rest.map fun other => [0x20] :: (Utf16.encode other).map fun unit => [unit] :=
        List.ext_getElem (by simp) (by simp [argumentPieces])
      rw [List.mapIdx_cons, behind, joined_cons, List.flatten_cons, List.flatten_append]
      congr 1
      · simp [argumentPieces, units]
      · rw [List.flatten_flatten, List.map_map, List.flatMap_def]
        exact congrArg List.flatten (List.map_congr_left fun other _ => by simp [units])

theorem length_joined {arguments : List (List Char)} (some : arguments ≠ []) :
    (joined arguments).length + 1 = reservation arguments := by
  induction arguments with
  | nil => contradiction
  | cons argument rest ih =>
      cases rest with
      | nil => rfl
      | cons other rest =>
          rw [reservation, ← ih (List.cons_ne_nil _ _), joined, List.length_append, List.length_cons]
          · omega
          · nofun

theorem encode_of_nonempty (limit : MemoryLimit) {arguments : List (List Char)} (nonempty : arguments ≠ []) :
    encode limit arguments = if limit.grants (2 * reservation arguments) then .ok (some (joined arguments ++ [0]))
      else .error ⟨2 * reservation arguments⟩ := by
  rw [encode, if_neg (mt List.isEmpty_iff.mp nonempty)]
  cases limit.grants (2 * reservation arguments) <;> rfl

theorem writeOptions_eq (limit : MemoryLimit) (arguments : List (List Char)) :
    writeOptions limit arguments = (encode limit arguments).mapError .reported := by
  unfold writeOptions encode
  cases arguments with
  | nil => rfl
  | cons argument rest =>
      have length := length_joined (List.cons_ne_nil argument rest)
      cases granted : limit.grants (2 * reservation (argument :: rest)) with
      | false => rfl
      | true =>
          simp only [List.isEmpty_cons, Bool.false_eq_true, if_false, Bool.not_true]
          have room : ([] : List UInt16).length + (joined (argument :: rest)).length ≤
              reservation (argument :: rest) := by
            rw [List.length_nil]
            omega
          rw [Reserved.extendAll_of_fits (by rw [flatten_argumentPieces]; exact room), flatten_argumentPieces]
          simp only [bind, Except.bind, List.nil_append]
          rw [Reserved.extend_of_fits (Nat.le_of_eq length)]
          rfl

end LoadOptions

section Sufficiency

open DevicePath LoadOptions

variable {limit : MemoryLimit} {device : Bytes} {path directory file : List Char} {size : Nat}
  {arguments : List (List Char)}

private theorem ofFile_of_refused (named : Named directory file path) (sized : sizeWithoutEnd device = .ok size)
    (refused : limit.grants (DevicePath.reservation size directory file) = false) :
    Fault.simplify (ofFile limit device path) = .error .outOfMemory := by
  rw [ofFile_of_named named sized, refused]
  rfl

private theorem encode_of_refused (some : arguments ≠ [])
    (refused : limit.grants (2 * LoadOptions.reservation arguments) = false) :
    Fault.simplify (encode limit arguments) = .error .outOfMemory := by
  rw [encode_of_nonempty limit some, refused]
  rfl

private theorem encode_of_granted (nonempty : arguments ≠ [])
    (granted : limit.grants (2 * LoadOptions.reservation arguments) = true) :
    encode limit arguments = .ok (some (joined arguments ++ [0])) := by
  rw [encode_of_nonempty limit nonempty, if_pos granted]

/-- One request for memory is enough for a device path and for load options. What is written never needs more than was
set aside for it, load options need all of it, and if it is refused, that is what is reported. -/
theorem reservations_suffice :
    (∀ limit device path, writePath limit device path = (ofFile limit device path).mapError .reported ∧
      (∀ built, ofFile limit device path = .ok built → ∃ directory file size, Named directory file path ∧
        sizeWithoutEnd device = .ok size ∧ built.length ≤ DevicePath.reservation size directory file) ∧
      ∀ directory file size, Named directory file path → sizeWithoutEnd device = .ok size →
        limit.grants (DevicePath.reservation size directory file) = false →
        Fault.simplify (ofFile limit device path) = .error .outOfMemory) ∧
    ∀ limit arguments, arguments ≠ [] → writeOptions limit arguments = (encode limit arguments).mapError .reported ∧
      (limit.grants (2 * LoadOptions.reservation arguments) = true →
        ∃ options, encode limit arguments = .ok (some options) ∧
          options.length = LoadOptions.reservation arguments) ∧
      (limit.grants (2 * LoadOptions.reservation arguments) = false →
        Fault.simplify (encode limit arguments) = .error .outOfMemory) := by
  refine ⟨fun limit device path => ⟨writePath_eq limit device path, fun built made => ?_, ?_⟩, ?_⟩
  · obtain ⟨directory, file, nodes, split, walked, -, directoryFits, fileFits, rfl⟩ := ofFile_eq_ok_iff.mp made
    refine ⟨directory, file, totalSize nodes, splitPath_named split,
      sizeWithoutEnd_eq_ok_iff.mpr ⟨nodes, walked, rfl⟩, ?_⟩
    rw [← filePathBytes_eq walked]
    exact length_filePathBytes_le _ _ _
  · exact fun directory file size => ofFile_of_refused
  · intro limit arguments nonempty
    refine ⟨writeOptions_eq limit arguments, fun granted => ?_, encode_of_refused nonempty⟩
    refine ⟨_, encode_of_granted nonempty granted, ?_⟩
    rw [List.length_append, List.length_singleton, length_joined nonempty]

/-- Names in ASCII need all that is set aside for a device path, and one byte less is refused. A character of two units
needs less, and load options need what is set aside whatever they hold. -/
theorem reservations_suffice_tight :
    (∃ built, ofFile (some 20) endNode ['/', 'a', 'b'] = .ok built ∧ built.length = 20 ∧
      ∃ directory file size, Named directory file ['/', 'a', 'b'] ∧ sizeWithoutEnd endNode = .ok size ∧
        built.length ≤ DevicePath.reservation size directory file) ∧
      Fault.simplify (ofFile (some 19) endNode ['/', 'a', 'b']) = .error .outOfMemory ∧
      (∃ options, encode (some 12) [['a'], [], ['𝄞']] = .ok (some options) ∧ options.length = 6) ∧
      Fault.simplify (encode (some 11) [['a'], [], ['𝄞']]) = .error .outOfMemory := by
  obtain ⟨paths, options⟩ := reservations_suffice
  have named : Named [] ['a', 'b'] ['/', 'a', 'b'] := .plain (by decide) (by decide)
  have sized : sizeWithoutEnd endNode = .ok 0 := by decide +kernel
  have made : ofFile (some 20) endNode ['/', 'a', 'b'] = .ok (filePathBytes endNode 0 [] ['a', 'b']) :=
    ofFile_of_named named sized
  refine ⟨⟨_, made, by decide +kernel, (paths _ _ _).2.1 _ made⟩, (paths _ _ _).2.2 _ _ _ named sized rfl, ?_, ?_⟩
  · exact (options _ _ (List.cons_ne_nil _ _)).2.1 rfl
  · exact (options _ _ (List.cons_ne_nil _ _)).2.2 rfl

end Sufficiency

end EfiHandoff
