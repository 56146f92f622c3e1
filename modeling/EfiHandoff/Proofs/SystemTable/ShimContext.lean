import EfiHandoff.Proofs.Image.HeaderFormat
import EfiHandoff.Proofs.Program.History
import EfiHandoff.SystemTable.Shim

/-!
# What the shim says about an image

The shim answers with addresses, and whatever they are, none is followed out of the image. An answer that says what the
headers say gives the layout that is read from them.
-/

set_option autoImplicit false

namespace EfiHandoff.Shim

open Image SystemTable

/-- What the shim says about the headers of an image, with addresses for pointers. -/
structure Answer where
  imageAddress : UInt64
  imageSize : UInt64
  entry : UInt64
  headersSize : UInt64
  sectionCount : UInt16
  firstSection : UInt64
  relocations : UInt64
  directoryCount : UInt64
  signature : UInt64
deriving DecidableEq, Repr

/-- How far a pointer is from the first byte of an image; null is from none. -/
def distance (start pointer : UInt64) : Option Int :=
  if pointer = 0 then none else some (pointer.toNat - start.toNat)

def Answer.relative (answer : Answer) (start : UInt64) : ShimContext where
  imageAddress := answer.imageAddress
  imageSize := answer.imageSize
  entry := answer.entry
  headersSize := answer.headersSize
  sectionCount := answer.sectionCount
  firstSection := distance start answer.firstSection
  relocations := distance start answer.relocations
  directoryCount := answer.directoryCount
  signature := distance start answer.signature

section Pointers

def Inside (start : UInt64) (size : Nat) (pointer : UInt64) : Prop :=
  start.toNat ≤ pointer.toNat ∧ pointer.toNat < start.toNat + size

instance (start : UInt64) (size : Nat) (pointer : UInt64) : Decidable (Inside start size pointer) :=
  inferInstanceAs (Decidable (_ ∧ _))

def placeOf (start pointer : UInt64) : Nat := pointer.toNat - start.toNat

variable {start pointer : UInt64} {size place : Nat}

private theorem offsetIn_of_inside (placed : start ≠ 0) (inside : Inside start size pointer) :
    offsetIn size (distance start pointer) = some (placeOf start pointer) := by
  obtain ⟨first, last⟩ := inside
  have present : pointer ≠ 0 := by
    rintro rfl
    exact placed (UInt64.toNat_inj.mp (Nat.le_zero.mp first))
  have ahead : (pointer.toNat : Int) - start.toNat = Int.ofNat (placeOf start pointer) := by
    simp only [placeOf, Int.ofNat_eq_natCast]
    omega
  have fits : placeOf start pointer < size := by
    unfold placeOf
    omega
  unfold distance
  rw [if_neg present, ahead]
  exact if_pos fits

private theorem offsetIn_of_outside (outside : ¬ Inside start size pointer) :
    offsetIn size (distance start pointer) = none := by
  unfold distance
  split
  · rfl
  · unfold Inside at outside
    cases found : (pointer.toNat : Int) - start.toNat with
    | negSucc => rfl
    | ofNat place =>
        have far : ¬ place < size := by
          rw [Int.ofNat_eq_natCast] at found
          omega
        exact if_neg far

end Pointers

def given (start : UInt64) (image : Buffer) (answer : Answer) : Layout where
  preferredBase := answer.imageAddress
  imageSize := answer.imageSize
  entry := answer.entry
  headersSize := answer.headersSize
  sectionCount := answer.sectionCount
  sectionTable := UInt64.ofNat (placeOf start answer.firstSection)
  relocations :=
    if Inside start image.size answer.relocations then
      ⟨UInt32.ofNat (image.word (placeOf start answer.relocations) 4),
        UInt32.ofNat (image.word (placeOf start answer.relocations + 4) 4)⟩
    else .absent
  directoryCount := answer.directoryCount
  alignment := UInt32.ofNat (image.word (placeOf start answer.signature + 56) 4)

def answerConditions (start : UInt64) (image : Buffer) (answer : Answer) : List (Condition ContextFault) :=
  let alignment := (given start image answer).alignment
  [⟨Inside start image.size answer.firstSection, .astray "section table", .invalidHeader "section table"⟩,
    ⟨Inside start image.size answer.relocations → placeOf start answer.relocations + 8 ≤ image.size,
      .astray "data directory", .invalidHeader "data directory"⟩,
    ⟨Inside start image.size answer.signature, .astray "PE signature", .invalidHeader "PE signature"⟩,
    ⟨placeOf start answer.signature + 60 ≤ image.size, .astray "optional header too small",
      .invalidHeader "optional header too small"⟩,
    ⟨alignment.toNat.isPowerOfTwo, .alignment alignment, .invalidAlignment alignment⟩]

section Conditions

variable {α : Type} {start : UInt64} {image : Buffer} {answer : Answer} {value : α}
  {conditions : List (Condition ContextFault)} {pointer : UInt64} {offset length : Nat} {what : String}
  {error : BootError}

private theorem pointed_through {next : Nat → Except ContextFault α} (placed : start ≠ 0)
    (rest : Inside start image.size pointer → GoesThrough value conditions (next (placeOf start pointer))) :
    GoesThrough value (⟨Inside start image.size pointer, .astray what, error⟩ :: conditions)
      (pointed image (distance start pointer) what >>= next) := by
  refine .step (fun inside => ?_) (fun outside => ?_) rest
  · unfold pointed
    rw [offsetIn_of_inside placed inside]
  · unfold pointed
    rw [offsetIn_of_outside outside]

private theorem within_of_inside (reach : image.size ≤ wordLimit) (inside : offset + length ≤ image.size) :
    within image offset length what = .ok () := by
  unfold within
  rw [Extent.within?_of_le reach inside]

private theorem within_of_outside (outside : ¬ offset + length ≤ image.size) :
    within image offset length what = .error (.astray what) := by
  unfold within
  rw [Extent.within?_of_lt (Nat.lt_of_not_le outside)]

/-- The last of the conditions, whatever the type of the faults. -/
theorem aligned_through {φ : Type} {fault : φ} {alignment : UInt32} :
    GoesThrough value [⟨alignment.toNat.isPowerOfTwo, fault, error⟩]
      (if !isPowerOfTwo alignment then .error fault else .ok value) := by
  refine ⟨fun power => ?_, fun odd => ?_⟩
  · rw [isPowerOfTwo_iff.mpr power]
    rfl
  · rw [Bool.eq_false_iff.mpr (mt isPowerOfTwo_iff.mp odd)]
    rfl

private theorem directory_of_right (placed : start ≠ 0) (reach : image.size ≤ wordLimit)
    (right : Inside start image.size answer.relocations → placeOf start answer.relocations + 8 ≤ image.size) :
    directory image (distance start answer.relocations) = .ok (given start image answer).relocations := by
  unfold directory given
  by_cases inside : Inside start image.size answer.relocations
  · rw [offsetIn_of_inside placed inside, if_pos inside]
    dsimp only
    rw [within_of_inside reach (right inside)]
    rfl
  · rw [offsetIn_of_outside inside, if_neg inside]

private theorem directory_of_wrong (placed : start ≠ 0)
    (wrong : ¬ (Inside start image.size answer.relocations → placeOf start answer.relocations + 8 ≤ image.size)) :
    directory image (distance start answer.relocations) = .error (.astray "data directory") := by
  obtain ⟨inside, beyond⟩ := Classical.not_imp.mp wrong
  unfold directory
  rw [offsetIn_of_inside placed inside]
  dsimp only
  rw [within_of_outside beyond]
  rfl

private theorem layoutOf_through (placed : start ≠ 0) (reach : image.size ≤ wordLimit) :
    GoesThrough (given start image answer) (answerConditions start image answer)
      (layoutOf image (answer.relative start)) := by
  unfold layoutOf
  refine pointed_through placed fun table => ?_
  refine .step (directory_of_right placed reach) (directory_of_wrong placed) fun relocations => ?_
  refine pointed_through placed fun signature => ?_
  refine .step (fun fits => within_of_inside reach fits) (fun beyond => within_of_outside beyond) fun header => ?_
  exact aligned_through

end Conditions

inductive ContextGuard
  | reported (fault : ContextFault)
  | overflow
  /-- A number was to be read that is not whole in its slice. -/
  | short
deriving DecidableEq, Repr

section Guarded

def addressIn (start : UInt64) (size : Nat) (pointer : UInt64) : Option UInt64 :=
  if start ≤ pointer then
    if (pointer - start).toNat < size then some (pointer - start) else none
  else none

namespace ContextGuard

def placed (start : UInt64) (image : Buffer) (pointer : UInt64) (what : String) : Except ContextGuard UInt64 :=
  match addressIn start image.size pointer with
  | some place => .ok place
  | none => .error (.reported (.astray what))

def ranged (number : Nat) : Except ContextGuard Nat :=
  if number < wordLimit then .ok number else .error .overflow

def cut (image : Buffer) (first past : Nat) (what : String) : Except ContextGuard Buffer :=
  if first ≤ past ∧ past ≤ image.size then .ok (image.slice first (past - first))
  else .error (.reported (.astray what))

def number (bytes : Buffer) (place : Nat) : Except ContextGuard UInt32 :=
  if place + 4 ≤ bytes.size then .ok (UInt32.ofNat (bytes.word place 4)) else .error .short

end ContextGuard

open ContextGuard

def guardedDirectory (start : UInt64) (image : Buffer) (pointer : UInt64) : Except ContextGuard Directory :=
  match addressIn start image.size pointer with
  | none => .ok .absent
  | some place => do
      let rest ← cut image place.toNat image.size "data directory"
      let bytes ← cut rest 0 8 "data directory"
      return ⟨← number bytes 0, ← number bytes 4⟩

/-- Follows an answer by its addresses. Numbers are read only from slices that were cut out of the image. -/
def guardedAnswer (start : UInt64) (image : Buffer) (answer : Answer) : Except ContextGuard Layout := do
  let sectionTable ← placed start image answer.firstSection "section table"
  let relocations ← guardedDirectory start image answer.relocations
  let signature ← placed start image answer.signature "PE signature"
  let first ← ranged (signature.toNat + 56)
  let past ← ranged (signature.toNat + 60)
  let bytes ← cut image first past "optional header too small"
  let alignment ← number bytes 0
  if !isPowerOfTwo alignment then throw (.reported (.alignment alignment))
  return {
    preferredBase := answer.imageAddress
    imageSize := answer.imageSize
    entry := answer.entry
    headersSize := answer.headersSize
    sectionCount := answer.sectionCount
    sectionTable
    relocations
    directoryCount := answer.directoryCount
    alignment }

variable {start : UInt64} {image : Buffer} {answer : Answer} {pointer : UInt64} {size first past : Nat} {what : String}

private theorem addressIn_of_inside (inside : Inside start size pointer) :
    addressIn start size pointer = some (UInt64.ofNat (placeOf start pointer)) := by
  obtain ⟨least, last⟩ := inside
  have ahead : start ≤ pointer := UInt64.le_iff_toNat_le.mpr least
  have place : (pointer - start).toNat = placeOf start pointer := UInt64.toNat_sub_of_le _ _ ahead
  have fits : (pointer - start).toNat < size := by
    rw [place, placeOf]
    omega
  unfold addressIn
  rw [if_pos ahead, if_pos fits, ← place, UInt64.ofNat_toNat]

private theorem addressIn_of_outside (outside : ¬ Inside start size pointer) : addressIn start size pointer = none := by
  unfold addressIn
  split
  · next ahead =>
      have least := UInt64.le_iff_toNat_le.mp ahead
      refine if_neg fun near => outside ⟨least, ?_⟩
      rw [UInt64.toNat_sub_of_le _ _ ahead] at near
      omega
  · rfl

private theorem placeOf_toNat (start pointer : UInt64) :
    (UInt64.ofNat (placeOf start pointer)).toNat = placeOf start pointer :=
  UInt64.toNat_ofNat_of_lt (Nat.lt_of_le_of_lt (Nat.sub_le _ _) pointer.toNat_lt)

private theorem cut_of_inside (ordered : first ≤ past) (inside : past ≤ image.size) :
    cut image first past what = .ok (image.slice first (past - first)) := if_pos ⟨ordered, inside⟩

private theorem cut_of_beyond (beyond : ¬ past ≤ image.size) :
    cut image first past what = .error (.reported (.astray what)) :=
  if_neg fun inside => beyond inside.2

private theorem number_slice {place length offset : Nat} (inside : place + length ≤ image.size)
    (fits : offset + 4 ≤ length) :
    number (image.slice place length) offset = .ok (UInt32.ofNat (image.word (place + offset) 4)) := by
  unfold number
  rw [Buffer.size_slice inside, if_pos fits, Buffer.word_slice _ _ _ _ _ fits]

private theorem placed_through {α : Type} {value : α} {conditions : List (Condition ContextGuard)} {error : BootError}
    {next : UInt64 → Except ContextGuard α}
    (rest : Inside start image.size pointer →
      GoesThrough value conditions (next (UInt64.ofNat (placeOf start pointer)))) :
    GoesThrough value (⟨Inside start image.size pointer, .reported (.astray what), error⟩ :: conditions)
      (placed start image pointer what >>= next) := by
  refine .step (fun inside => ?_) (fun outside => ?_) rest
  · unfold placed
    rw [addressIn_of_inside inside]
  · unfold placed
    rw [addressIn_of_outside outside]

private theorem guardedDirectory_of_right
    (right : Inside start image.size answer.relocations → placeOf start answer.relocations + 8 ≤ image.size) :
    guardedDirectory start image answer.relocations = .ok (given start image answer).relocations := by
  unfold guardedDirectory given
  by_cases inside : Inside start image.size answer.relocations
  · have fits := right inside
    have whole :
        placeOf start answer.relocations + (image.size - placeOf start answer.relocations) ≤ image.size := by omega
    have room : 0 + 8 ≤ image.size - placeOf start answer.relocations := by omega
    rw [addressIn_of_inside inside, if_pos inside]
    dsimp only
    rw [placeOf_toNat, cut_of_inside (by omega) (Nat.le_refl _)]
    dsimp only [bind, Except.bind]
    rw [cut_of_inside (Nat.zero_le _) (by rw [Buffer.size_slice whole]; omega), Buffer.slice_slice image room,
      Nat.add_zero]
    dsimp only
    rw [number_slice fits (by decide : 0 + 4 ≤ 8), number_slice fits (by decide : 4 + 4 ≤ 8)]
    rfl
  · rw [addressIn_of_outside inside, if_neg inside]

private theorem guardedDirectory_of_wrong
    (wrong : ¬ (Inside start image.size answer.relocations → placeOf start answer.relocations + 8 ≤ image.size)) :
    guardedDirectory start image answer.relocations = .error (.reported (.astray "data directory")) := by
  obtain ⟨inside, beyond⟩ := Classical.not_imp.mp wrong
  have before : placeOf start answer.relocations ≤ image.size := by
    have := inside.2
    unfold placeOf
    omega
  have whole :
      placeOf start answer.relocations + (image.size - placeOf start answer.relocations) ≤ image.size := by omega
  unfold guardedDirectory
  rw [addressIn_of_inside inside]
  dsimp only
  rw [placeOf_toNat, cut_of_inside before (Nat.le_refl _)]
  dsimp only [bind, Except.bind]
  rw [cut_of_beyond (by rw [Buffer.size_slice whole]; omega)]

theorem guardedAnswer_through (small : image.size < sizeLimit) :
    GoesThrough (given start image answer) ((answerConditions start image answer).map (Condition.rename .reported))
      (guardedAnswer start image answer) := by
  unfold guardedAnswer
  refine placed_through fun table => ?_
  refine .step guardedDirectory_of_right guardedDirectory_of_wrong fun relocations => ?_
  refine placed_through fun signature => ?_
  have near : placeOf start answer.signature + 60 < wordLimit := by
    have := signature.2
    unfold placeOf wordLimit
    unfold sizeLimit at small
    omega
  rw [placeOf_toNat]
  refine .pass (if_pos (by omega)) (.pass (if_pos near) ?_)
  refine .step (fun fits => cut_of_inside (by omega) fits) (fun beyond => cut_of_beyond beyond) fun fits => ?_
  have length : placeOf start answer.signature + 60 - (placeOf start answer.signature + 56) = 4 := by omega
  rw [length]
  refine .pass (number_slice (by exact fits) (Nat.le_refl _)) ?_
  exact aligned_through

/-- No guard ever stops the following of an answer. -/
theorem guardedAnswer_eq (placed : start ≠ 0) (small : image.size < sizeLimit) :
    guardedAnswer start image answer = (layoutOf image (answer.relative start)).mapError .reported :=
  have reach : image.size ≤ wordLimit := Nat.le_trans (Nat.le_of_lt small) (by decide)
  (guardedAnswer_through small).unique ((layoutOf_through placed reach).mapError ContextGuard.reported)

end Guarded

section Verdicts

variable {start : UInt64} {shim : UInt64} {image : Buffer} {answer : Answer} {layout : Layout} {status : Status}
  {context : ShimContext} {result : Except BootError Layout}

def PointsAt (start pointer : UInt64) (place : Nat) : Prop := pointer.toNat = start.toNat + place

/-- An answer that says what the headers of an image say. Where they have no entry for relocations, its pointer to
one leads out of the image. -/
structure Agrees (start : UInt64) (image : Buffer) (answer : Answer) (layout : Layout) : Prop where
  imageAddress : answer.imageAddress = layout.preferredBase
  imageSize : answer.imageSize = layout.imageSize
  entry : answer.entry = layout.entry
  headersSize : answer.headersSize = layout.headersSize
  sectionCount : answer.sectionCount = layout.sectionCount
  directoryCount : answer.directoryCount = layout.directoryCount
  firstSection : PointsAt start answer.firstSection layout.sectionTable.toNat
  tableInside : layout.sectionTable.toNat < image.size
  signature : PointsAt start answer.signature (signatureAt image)
  relocations : 5 < layout.directoryCount.toNat → PointsAt start answer.relocations (optionalAt image + 112 + 5 * 8)
  unrelocated : ¬ 5 < layout.directoryCount.toNat → ¬ Inside start image.size answer.relocations

/-- What the shim can have made of a layout, and no more: its numbers, and what stands in the image at the places it
points to. -/
structure Contained (start : UInt64) (image : Buffer) (answer : Answer) (layout : Layout) : Prop where
  preferredBase : layout.preferredBase = answer.imageAddress
  imageSize : layout.imageSize = answer.imageSize
  entry : layout.entry = answer.entry
  headersSize : layout.headersSize = answer.headersSize
  sectionCount : layout.sectionCount = answer.sectionCount
  directoryCount : layout.directoryCount = answer.directoryCount
  sectionTable : PointsAt start answer.firstSection layout.sectionTable.toNat
  tableInside : layout.sectionTable.toNat < image.size
  alignment : ∃ place, PointsAt start answer.signature place ∧ place + 60 ≤ image.size ∧
    layout.alignment.toNat = image.word (place + 56) 4
  powerOfTwo : layout.alignment.toNat.isPowerOfTwo
  relocations : Inside start image.size answer.relocations →
    ∃ place, PointsAt start answer.relocations place ∧ place + 8 ≤ image.size ∧
      layout.relocations.start.toNat = image.word place 4 ∧ layout.relocations.size.toNat = image.word (place + 4) 4
  unrelocated : ¬ Inside start image.size answer.relocations → layout.relocations = ⟨0, 0⟩

private theorem PointsAt.placeOf {pointer : UInt64} {place : Nat} (points : PointsAt start pointer place) :
    placeOf start pointer = place := by
  unfold PointsAt at points
  unfold Shim.placeOf
  omega

theorem PointsAt.inside {pointer : UInt64} {place size : Nat} (points : PointsAt start pointer place)
    (near : place < size) : Inside start size pointer := by
  unfold PointsAt at points
  unfold Inside
  omega

private theorem Inside.pointsAt {pointer : UInt64} {size : Nat} (inside : Inside start size pointer) :
    PointsAt start pointer (Shim.placeOf start pointer) := by
  unfold Inside at inside
  unfold PointsAt Shim.placeOf
  omega

private theorem Inside.placeOf_lt {pointer : UInt64} {size : Nat} (inside : Inside start size pointer) :
    Shim.placeOf start pointer < size := by
  unfold Inside at inside
  unfold Shim.placeOf
  omega

private theorem given_contained (all : ∀ condition ∈ answerConditions start image answer, condition.holds) :
    Contained start image answer (given start image answer) := by
  simp only [answerConditions, List.forall_mem_cons] at all
  obtain ⟨table, directory, signature, header, alignment, -⟩ := all
  have single (place : Nat) : (UInt32.ofNat (image.word place 4)).toNat = image.word place 4 :=
    UInt32.toNat_ofNat_of_lt (Buffer.word_lt image place 4)
  exact {
    preferredBase := rfl
    imageSize := rfl
    entry := rfl
    headersSize := rfl
    sectionCount := rfl
    directoryCount := rfl
    sectionTable := by
      rw [given, placeOf_toNat]
      exact table.pointsAt
    tableInside := by
      rw [given, placeOf_toNat]
      exact table.placeOf_lt
    alignment := ⟨_, signature.pointsAt, header, single _⟩
    powerOfTwo := alignment
    relocations := fun inside => by
      refine ⟨_, inside.pointsAt, directory inside, ?_⟩
      rw [given, if_pos inside]
      exact ⟨single _, single _⟩
    unrelocated := fun outside => if_neg outside }

theorem Agrees.holds (agrees : Agrees start image answer layout) (read : readLayout image = .ok layout) :
    ∀ condition ∈ answerConditions start image answer, condition.holds := by
  obtain ⟨accepted, rfl⟩ := readLayout_eq_ok_iff.mp read
  have place := agrees.signature.placeOf
  have inside := accepted.signatureInside
  have reach : signatureAt image + 60 ≤ image.size := by
    have long := accepted.optionalLarge
    have whole := accepted.optionalInside
    simp only [optionalAt, headerAt, fileHeaderSize, optionalHeaderSize] at long whole
    omega
  have directory :
      Inside start image.size answer.relocations → Shim.placeOf start answer.relocations + 8 ≤ image.size := by
    intro points
    by_cases counted : 5 < (declared image).directoryCount.toNat
    · rw [(agrees.relocations counted).placeOf]
      rw [(describes_declared image).directoryCount] at counted
      exact directory_inside accepted.optionalInside counted
    · exact absurd points (agrees.unrelocated counted)
  unfold answerConditions
  simp only [List.forall_mem_cons, List.not_mem_nil, false_implies, implies_true, and_true, Shim.given]
  refine ⟨agrees.firstSection.inside agrees.tableInside, directory, agrees.signature.inside (by omega), ?_, ?_⟩
  · rwa [place]
  · rw [place]
    exact isPowerOfTwo_iff.mp accepted.alignment

theorem Agrees.given (agrees : Agrees start image answer layout) (read : readLayout image = .ok layout) :
    Shim.given start image answer = layout := by
  obtain ⟨accepted, rfl⟩ := readLayout_eq_ok_iff.mp read
  have table : UInt64.ofNat (Shim.placeOf start answer.firstSection) = (declared image).sectionTable := by
    rw [agrees.firstSection.placeOf, UInt64.ofNat_toNat]
  have relocations : (Shim.given start image answer).relocations = (declared image).relocations := by
    have count := (describes_declared image).directoryCount
    unfold Shim.given
    by_cases counted : 5 < (declared image).directoryCount.toNat
    · have points := agrees.relocations counted
      rw [count] at counted
      have within := directory_inside accepted.optionalInside counted
      have inside : directoryAt image < image.size := Nat.lt_of_lt_of_le (Nat.lt_add_of_pos_right (by decide)) within
      rw [relocations_of_counted counted, if_pos (points.inside inside), points.placeOf]
      rfl
    · have outside := agrees.unrelocated counted
      rw [count] at counted
      rw [relocations_of_uncounted counted, if_neg outside]
  have alignment : (Shim.given start image answer).alignment = (declared image).alignment := by
    unfold Shim.given
    rw [agrees.signature.placeOf]
    rfl
  exact Layout.ext agrees.imageAddress agrees.imageSize agrees.entry agrees.headersSize agrees.sectionCount table
    relocations agrees.directoryCount alignment

def verdict (image : Buffer) (status : Status) (context : ShimContext) : Except BootError Layout :=
  Fault.simplify (if status.isSuccess then layoutOf image context else .error (.failed status))

theorem told_follows {told : Except ContextFault Layout} {history : History systemTable} :
    (do Program.report (Fault.reported told); return Fault.simplify told : Act (Except BootError Layout)).Follows
      history result ↔ history = [] ∧ result = Fault.simplify told := by
  rw [Program.follows_bind]
  constructor
  · rintro ⟨⟨⟩, first, second, reported, ⟨rfl, rfl⟩, rfl⟩
    exact ⟨by rw [Program.follows_report.mp reported, List.append_nil], rfl⟩
  · rintro ⟨rfl, rfl⟩
    exact ⟨(), [], [], Program.follows_report.mpr rfl, ⟨rfl, rfl⟩, rfl⟩

/-- The shim is asked once, and its answer decides. -/
theorem layout_follows (small : image.size < sizeLimit) {history : History systemTable} :
    (Shim.layout shim image).Follows history result ↔
      ∃ status context, history = [⟨.shimContext shim image, (status, context)⟩] ∧
        result = verdict image status context := by
  unfold Shim.layout
  rw [if_pos small]
  constructor
  · intro follows
    obtain ⟨⟨status, context⟩, later, rfl, continued⟩ := Program.follows_ask.mp follows
    obtain ⟨rfl, rfl⟩ := told_follows.mp continued
    exact ⟨status, context, rfl, rfl⟩
  · rintro ⟨status, context, rfl, rfl⟩
    exact Program.follows_ask.mpr ⟨(status, context), [], rfl, told_follows.mpr ⟨rfl, rfl⟩⟩

private theorem answerConditions_named :
    ∀ condition ∈ answerConditions start image answer, Fault.error condition.fault = condition.error := by
  unfold answerConditions
  simp only [List.forall_mem_cons, List.not_mem_nil, false_implies, implies_true, and_true]
  exact ⟨rfl, rfl, rfl, rfl, rfl⟩

private theorem verdict_of_failure (failed : status ≠ .success) :
    verdict image status context = .error (
      if status = .unsupported then .contextUnsupported
      else if status = .invalidParameter then .contextRejected
      else .contextFailed status) := by
  have unsuccessful : status.isSuccess = false := beq_eq_false_iff_ne.mpr failed
  unfold verdict
  rw [unsuccessful]
  rfl

section Success

variable (placed : start ≠ 0) (reach : image.size ≤ wordLimit)

include placed reach

private theorem contained_of_verdict (read : verdict image .success (answer.relative start) = .ok layout) :
    Contained start image answer layout := by
  obtain ⟨all, rfl⟩ := (layoutOf_through placed reach).eq_ok_iff.mp (Fault.simplify_eq_ok_iff.mp read)
  exact given_contained all

theorem verdict_eq_error_iff {why : BootError} :
    verdict image .success (answer.relative start) = .error why ↔
      ∃ failed, FirstFailed (answerConditions start image answer) failed ∧ failed.error = why := by
  have through := @layoutOf_through start image answer placed reach
  refine Fault.simplify_eq_error_iff.trans ⟨?_, ?_⟩
  · rintro ⟨fault, refused, rfl⟩
    obtain ⟨failed, first, rfl⟩ := through.eq_error_iff.mp refused
    exact ⟨failed, first, (answerConditions_named failed first.mem).symm⟩
  · rintro ⟨failed, first, rfl⟩
    exact ⟨failed.fault, through.refused first, answerConditions_named failed first.mem⟩

private theorem verdict_of_agrees (agrees : Agrees start image answer layout) (read : readLayout image = .ok layout) :
    verdict image .success (answer.relative start) = .ok layout := by
  have accepted := (layoutOf_through placed reach).accepted (agrees.holds read)
  rw [agrees.given read] at accepted
  exact Fault.simplify_eq_ok_iff.mpr accepted

end Success

end Verdicts

/-- An answer of the shim is followed as far as it stays in the image, whatever it says. A failure gives an error of
its own kind. A success gives what is contained in the answer and the image, or else the error of the first condition
that the answer does not meet. An answer that agrees with the headers gives the layout that is read from them. -/
theorem layout_contained (shim start : UInt64) (image : Buffer) (placed : start ≠ 0)
    (small : image.size < 0x100000000) :
    (∀ history result, (Shim.layout shim image).Follows history result →
      ∃ status context, history = [⟨.shimContext shim image, (status, context)⟩]) ∧
    ∀ status answer,
      guardedAnswer start image answer = (layoutOf image (answer.relative start)).mapError .reported ∧
      ∃ result,
        (∀ other, (Shim.layout shim image).Follows [⟨.shimContext shim image, (status, answer.relative start)⟩] other ↔
          other = result) ∧
        (status ≠ .success → result = .error (
          if status = .unsupported then .contextUnsupported
          else if status = .invalidParameter then .contextRejected
          else .contextFailed status)) ∧
        (status = .success →
          (∀ layout, result = .ok layout → Contained start image answer layout) ∧
          (∀ why, result = .error why ↔
            ∃ failed, FirstFailed (answerConditions start image answer) failed ∧ failed.error = why) ∧
          ∀ layout, readLayout image = .ok layout → Agrees start image answer layout → result = .ok layout) := by
  have reach : image.size ≤ wordLimit := Nat.le_trans (Nat.le_of_lt small) (by decide)
  refine ⟨fun history result follows => ?_, fun status answer => ?_⟩
  · obtain ⟨status, context, asked, -⟩ := (layout_follows small).mp follows
    exact ⟨status, context, asked⟩
  · refine ⟨guardedAnswer_eq placed small, verdict image status (answer.relative start), fun other => ?_,
      verdict_of_failure, ?_⟩
    · rw [layout_follows small]
      constructor
      · rintro ⟨given, context, asked, rfl⟩
        cases asked
        rfl
      · rintro rfl
        exact ⟨status, _, rfl, rfl⟩
    · rintro rfl
      exact ⟨fun layout => contained_of_verdict placed reach, fun why => verdict_eq_error_iff placed reach,
        fun layout read agrees => verdict_of_agrees placed reach agrees read⟩

section Topmost

/-- Headers with six directories and no section, and one byte behind them. -/
@[irreducible] def barestFile : Buffer :=
  let zeros (count : Nat) : Bytes := List.replicate count 0
  ([0x4d, 0x5a] ++ zeros 58 ++ [64, 0, 0, 0, 0x50, 0x45, 0, 0, 0x64, 0x86] ++ zeros 14 ++ [160, 0, 0, 0, 0x0b, 2] ++
    zeros 30 ++ [16, 0, 0, 0] ++ zeros 20 ++ [0, 2, 0, 0] ++ zeros 48 ++ [6, 0, 0, 0] ++ zeros 40 ++
    [32, 0, 0, 0, 8, 0, 0, 0, 0xcc]).toArray

def barestLayout : Layout where
  preferredBase := 0
  imageSize := 512
  entry := 0
  headersSize := 0
  sectionCount := 0
  sectionTable := 248
  relocations := ⟨32, 8⟩
  directoryCount := 6
  alignment := 16

/-- The address of the file, which ends seven bytes below the top of the address space. -/
def topmost : UInt64 := 0xffffffffffffff00

def barestAnswer (relocations : UInt64) : Answer where
  imageAddress := 0
  imageSize := 512
  entry := 0
  headersSize := 0
  sectionCount := 0
  firstSection := topmost + 248
  relocations
  directoryCount := 6
  signature := topmost + 64

/-- The last byte of the file is no entry for relocations. -/
theorem layout_contained_topmost :
    topmost ≠ 0 ∧ barestFile.size < 0x100000000 ∧
      (Shim.layout 7 barestFile).Follows
        [⟨.shimContext 7 barestFile, (.success, (barestAnswer (topmost + 240)).relative topmost)⟩] (.ok barestLayout) ∧
      (Shim.layout 7 barestFile).Follows
        [⟨.shimContext 7 barestFile, (.success, (barestAnswer (topmost + 248)).relative topmost)⟩]
        (.error (.invalidHeader "data directory")) := by
  have placed : topmost ≠ 0 := by decide
  have size : barestFile.size = 249 := by decide +kernel
  have small : barestFile.size < 0x100000000 := size ▸ by decide
  have read : readLayout barestFile = .ok barestLayout := by decide +kernel
  have agrees : Agrees topmost barestFile (barestAnswer (topmost + 240)) barestLayout := {
    imageAddress := rfl
    imageSize := rfl
    entry := rfl
    headersSize := rfl
    sectionCount := rfl
    directoryCount := rfl
    firstSection := by unfold PointsAt; decide
    tableInside := size ▸ by decide
    signature := by unfold PointsAt; decide +kernel
    relocations := fun _ => by unfold PointsAt; decide +kernel
    unrelocated := fun uncounted => absurd (by decide) uncounted }
  have stray : FirstFailed (answerConditions topmost barestFile (barestAnswer (topmost + 248)))
      ⟨Inside topmost barestFile.size (topmost + 248) → placeOf topmost (topmost + 248) + 8 ≤ barestFile.size,
        .astray "data directory", .invalidHeader "data directory"⟩ := by
    rw [answerConditions, size]
    exact .later (by show Inside topmost 249 (topmost + 248); decide) (.here (by decide))
  obtain ⟨-, answers⟩ := layout_contained 7 topmost barestFile placed small
  refine ⟨placed, small, ?_, ?_⟩
  · obtain ⟨-, result, same, -, told⟩ := answers .success (barestAnswer (topmost + 240))
    obtain ⟨-, -, honest⟩ := told rfl
    exact (same _).mpr (honest _ read agrees).symm
  · obtain ⟨-, result, same, -, told⟩ := answers .success (barestAnswer (topmost + 248))
    obtain ⟨-, refused, -⟩ := told rfl
    exact (same _).mpr ((refused _).mpr ⟨_, stray, rfl⟩).symm

end Topmost

end EfiHandoff.Shim
