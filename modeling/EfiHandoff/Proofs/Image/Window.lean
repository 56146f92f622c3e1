import EfiHandoff.Proofs.Image.LoadFailures
import Mathlib.Order.Bounds.Basic

/-!
# The window of an image

A layout says how much memory its image asks for, and where in that memory the window of the image lies: at the first
aligned address. There is one in every buffer that does not lie at the very top of the address space, the window fits
behind it, and it is blank.
-/

set_option autoImplicit false

namespace EfiHandoff

open Platform

namespace Image

section Aligning

variable {address alignment base : Nat}

private theorem add_le_of_multiples {first second : Nat} (aligned : alignment ∣ first) (behind : alignment ∣ second)
    (less : first < second) : first + alignment ≤ second := by
  have step := Nat.le_of_dvd (Nat.sub_pos_of_lt less) (Nat.dvd_sub behind aligned)
  omega

theorem alignUp_isLeast (positive : 0 < alignment) (found : alignUp address alignment = some base) :
    IsLeast {place | alignment ∣ place ∧ address ≤ place} base := by
  obtain ⟨above, below, -⟩ := alignUp_some positive found
  refine ⟨⟨alignUp_dvd found, above⟩, ?_⟩
  rintro place ⟨aligned, behind⟩
  by_contra less
  have step := add_le_of_multiples aligned (alignUp_dvd found) (Nat.lt_of_not_le less)
  omega

/-- Where the address space ends at a multiple, rounding up leaves it only if there is no multiple left in it. -/
theorem alignUp_eq_none_iff (positive : 0 < alignment) (whole : alignment ∣ wordLimit) :
    alignUp address alignment = none ↔ ∀ place, alignment ∣ place → address ≤ place → wordLimit ≤ place := by
  constructor
  · intro passed place aligned behind
    have high : ¬ address + (alignment - 1) < wordLimit := by
      intro fits
      unfold alignUp at passed
      rw [checkedAdd_of_lt fits] at passed
      cases passed
    by_contra below
    have step := add_le_of_multiples aligned whole (Nat.lt_of_not_le below)
    omega
  · intro top
    cases found : alignUp address alignment with
    | none => rfl
    | some base =>
        obtain ⟨above, -, fits⟩ := alignUp_some positive found
        exact absurd (top base (alignUp_dvd found) above) (Nat.not_le.mpr fits)

end Aligning

section Masks

/-- Rounding up in 64-bit words: the mask is added, unless that overflows, and its bits are cleared. -/
def maskedUp (address alignment : UInt64) : Option UInt64 :=
  let mask := alignment - 1
  if address.toNat + mask.toNat < 2 ^ 64 then some ((address + mask) &&& ~~~mask) else none

private theorem and_complement {exponent : Nat} (small : exponent < 64) (word : UInt64) :
    word.toNat &&& (2 ^ 64 - (2 ^ exponent - 1 + 1)) = word.toNat / 2 ^ exponent * 2 ^ exponent := by
  have room : 2 ^ exponent < 2 ^ 64 := (Nat.pow_lt_pow_iff_right (by decide)).mpr small
  refine Nat.eq_of_testBit_eq fun bit => ?_
  rw [Nat.testBit_and, Nat.testBit_two_pow_sub_succ (by omega), Nat.testBit_two_pow_sub_one,
    Nat.testBit_mul_two_pow, Nat.testBit_div_two_pow]
  by_cases low : bit < exponent
  · simp [low, Nat.not_le.mpr low]
  · by_cases high : bit < 64
    · simp [low, high, Nat.le_of_not_lt low]
    · have clear : word.toNat.testBit bit = false :=
        Nat.testBit_lt_two_pow (Nat.lt_of_lt_of_le word.toNat_lt
          (Nat.pow_le_pow_right (by decide) (Nat.le_of_not_lt high)))
      simp [clear, Nat.le_of_not_lt low]

/-- For a power of two, clearing bits rounds to a multiple. -/
theorem maskedUp_eq (address : UInt64) {alignment : UInt64} (power : alignment.toNat.isPowerOfTwo) :
    (maskedUp address alignment).map UInt64.toNat = alignUp address.toNat alignment.toNat := by
  obtain ⟨exponent, same⟩ := power
  have small : exponent < 64 := (Nat.pow_lt_pow_iff_right (by decide)).mp (same ▸ alignment.toNat_lt)
  have positive : (1 : UInt64) ≤ alignment := by
    rw [UInt64.le_iff_toNat_le, same]
    exact Nat.two_pow_pos exponent
  have mask : (alignment - 1).toNat = 2 ^ exponent - 1 := by
    rw [UInt64.toNat_sub_of_le _ _ positive, same]
    rfl
  unfold maskedUp alignUp
  dsimp only
  rw [mask, same]
  by_cases fits : address.toNat + (2 ^ exponent - 1) < 2 ^ 64
  · rw [if_pos fits, checkedAdd_of_lt fits]
    have sum : (address + (alignment - 1)).toNat = address.toNat + (2 ^ exponent - 1) := by
      rw [UInt64.toNat_add, mask]
      exact Nat.mod_eq_of_lt fits
    have complement : (~~~(alignment - 1)).toNat = 2 ^ 64 - (2 ^ exponent - 1 + 1) := by
      rw [UInt64.toNat_not, mask, Nat.sub_sub, Nat.add_comm 1]
      rfl
    rw [Option.map_some, Option.map_some, UInt64.toNat_and, complement, and_complement small, sum]
  · rw [if_neg fits, checkedAdd_of_le (Nat.le_of_not_lt fits)]
    rfl

end Masks

/-- How much memory the image of a layout asks for, or why it asks for none. -/
inductive Window.Asks (layout : Layout) : Except BootError Nat → Prop where
  | empty (empty : layout.imageSize.toNat = 0) : Window.Asks layout (.error (.invalidHeader "image size is zero"))
  | alignment (nonempty : layout.imageSize.toNat ≠ 0) (odd : ¬ layout.alignment.toNat.isPowerOfTwo) :
      Window.Asks layout (.error (.invalidAlignment layout.alignment))
  | tooLarge (nonempty : layout.imageSize.toNat ≠ 0) (power : layout.alignment.toNat.isPowerOfTwo)
      (large : 2 ^ 64 ≤ layout.imageSize.toNat + layout.alignment.toNat) :
      Window.Asks layout (.error (.invalidHeader "image too large"))
  | whole (nonempty : layout.imageSize.toNat ≠ 0) (power : layout.alignment.toNat.isPowerOfTwo)
      (fits : layout.imageSize.toNat + layout.alignment.toNat < 2 ^ 64) :
      Window.Asks layout (.ok (layout.imageSize.toNat + layout.alignment.toNat))

/-- The window of an image in a blank buffer at `address`: it starts at the first aligned address there is, and does
not reach beyond the buffer. -/
structure Window.PlacedAt (layout : Layout) (address : UInt64) (window : Window) : Prop where
  base : IsLeast {place | layout.alignment.toNat ∣ place ∧ address.toNat ≤ place} window.base.toNat
  offset : window.base.toNat = address.toNat + window.offset
  slack : window.offset < layout.alignment.toNat
  size : window.size = layout.imageSize.toNat
  buffer : window.buffer =
    ⟨address, Array.replicate (layout.imageSize.toNat + layout.alignment.toNat) 0⟩
  inside : window.offset + window.size ≤ window.buffer.bytes.size
  blank : window.bytes = Array.replicate window.size 0

/-- The ways choosing a window in a buffer of its own can go, by the layout and by what the firmware replies. -/
inductive WindowVerdict (layout : Layout) : History platform → Except BootError Window → Prop where
  | unrequested {error : BootError} (asks : Window.Asks layout (.error error)) : WindowVerdict layout [] (.error error)
  | ungranted {size : Nat} {status : Status} (asks : Window.Asks layout (.ok size)) :
      WindowVerdict layout [⟨.allocatePool .data size, .error status⟩] (.error .outOfMemory)
  | unaligned {size : Nat} {grant : Grant} {freed : Status} (asks : Window.Asks layout (.ok size))
      (top : ∀ place, layout.alignment.toNat ∣ place → grant.address.toNat ≤ place → 2 ^ 64 ≤ place) :
      WindowVerdict layout [⟨.allocatePool .data size, .ok grant⟩, ⟨.freePool grant.address, freed⟩]
        (.error .outOfMemory)
  | placed {size : Nat} {grant : Grant} {window : Window} (asks : Window.Asks layout (.ok size))
      (placed : Window.PlacedAt layout grant.address window) :
      WindowVerdict layout [⟨.allocatePool .data size, .ok grant⟩] (.ok window)

section Asking

variable {layout : Layout} {outcome : Except BootError Nat}

private theorem Window.asks_exists (layout : Layout) : ∃ outcome, Window.Asks layout outcome := by
  by_cases empty : layout.imageSize.toNat = 0
  · exact ⟨_, .empty empty⟩
  by_cases power : layout.alignment.toNat.isPowerOfTwo
  · by_cases fits : layout.imageSize.toNat + layout.alignment.toNat < 2 ^ 64
    · exact ⟨_, .whole empty power fits⟩
    · exact ⟨_, .tooLarge empty power (Nat.le_of_not_lt fits)⟩
  · exact ⟨_, .alignment empty power⟩

theorem Window.Asks.bufferSize (asks : Window.Asks layout outcome) :
    Fault.simplify (Window.bufferSize layout) = outcome := by
  have zero : layout.imageSize = 0 ↔ layout.imageSize.toNat = 0 := UInt64.toNat_inj.symm
  unfold Window.bufferSize
  cases asks with
  | empty empty =>
      rw [if_pos (zero.mpr empty)]
      rfl
  | alignment nonempty odd =>
      rw [if_neg (mt zero.mp nonempty), Bool.eq_false_iff.mpr (mt isPowerOfTwo_iff.mp odd)]
      rfl
  | tooLarge nonempty power large =>
      rw [if_neg (mt zero.mp nonempty), isPowerOfTwo_iff.mpr power, checkedAdd_of_le large]
      rfl
  | whole nonempty power fits =>
      rw [if_neg (mt zero.mp nonempty), isPowerOfTwo_iff.mpr power, checkedAdd_of_lt fits]
      rfl

theorem Window.simplify_bufferSize_iff : Fault.simplify (bufferSize layout) = outcome ↔ Window.Asks layout outcome := by
  refine ⟨fun ends => ?_, Window.Asks.bufferSize⟩
  obtain ⟨known, asks⟩ := asks_exists layout
  rw [← ends, asks.bufferSize]
  exact asks

theorem Window.bufferSize_iff {size : Nat} : bufferSize layout = .ok size ↔ Window.Asks layout (.ok size) := by
  rw [← simplify_bufferSize_iff, Fault.simplify_eq_ok_iff]

theorem Window.Asks.refused {error : BootError} (asks : Window.Asks layout (.error error)) :
    layout.imageSize.toNat = 0 ∨ ¬ layout.alignment.toNat.isPowerOfTwo ∨
      2 ^ 64 ≤ layout.imageSize.toNat + layout.alignment.toNat := by
  cases asks with
  | empty empty => exact .inl empty
  | alignment _ odd => exact .inr (.inl odd)
  | tooLarge _ _ large => exact .inr (.inr large)

theorem Window.Asks.granted {size : Nat} (asks : Window.Asks layout (.ok size)) :
    ¬ (layout.imageSize.toNat = 0 ∨ ¬ layout.alignment.toNat.isPowerOfTwo ∨
      2 ^ 64 ≤ layout.imageSize.toNat + layout.alignment.toNat) := by
  generalize asked : (Except.ok size : Except BootError Nat) = outcome at asks
  cases asks with
  | whole nonempty power fits =>
      rintro (empty | odd | large)
      · exact nonempty empty
      · exact odd power
      · exact Nat.not_le.mpr fits large
  | _ => cases asked

end Asking

section Choosing

variable {layout : Layout} {address : UInt64} {window : Window} {size : Nat}

theorem alignment_dvd_wordLimit {alignment : UInt32} (power : alignment.toNat.isPowerOfTwo) :
    0 < alignment.toNat ∧ alignment.toNat ∣ wordLimit := by
  obtain ⟨exponent, same⟩ := power
  have small : exponent < 32 := (Nat.pow_lt_pow_iff_right (by decide)).mp (same ▸ alignment.toNat_lt)
  rw [same]
  exact ⟨Nat.two_pow_pos exponent, Nat.pow_dvd_pow (n := 64) 2 (by omega)⟩

private theorem Window.choose_placed (requested : bufferSize layout = .ok size)
    (chosen : choose layout ⟨address, Array.replicate size 0⟩ = .ok window) :
    Window.PlacedAt layout address window := by
  obtain ⟨power, rfl⟩ := bufferSize_ok requested
  obtain ⟨positive, -⟩ := alignment_dvd_wordLimit (isPowerOfTwo_iff.mp power)
  obtain ⟨buffer, length, room, -⟩ := choose_ok requested chosen
  have offset := base_toNat requested chosen
  obtain ⟨sized, zero⟩ := bytes_blank requested chosen
  obtain ⟨base, aligned, above, below, -, whole⟩ := choose_base requested chosen
  have start : address.toNat + window.offset = base := by
    rw [whole]
    exact Nat.add_sub_cancel' above
  refine { base := ?_, offset, slack := ?_, size := length, buffer, inside := ?_, blank := ?_ }
  · rw [offset, start]
    exact alignUp_isLeast positive aligned
  · simp only at below
    omega
  · rw [buffer, Array.size_replicate]
    exact room
  · refine Array.ext (by rw [sized, length, Array.size_replicate]) fun place inside _ => ?_
    have same := zero place inside
    rw [Array.getElem?_eq_getElem inside] at same
    rw [Option.some.inj same, Array.getElem_replicate]

theorem Window.choose_error_iff (requested : bufferSize layout = .ok size) {fault : WindowFault} (buffer : PoolBuffer) :
    choose layout buffer = .error fault ↔ fault = .noAlignedAddress ∧
      ∀ place, layout.alignment.toNat ∣ place → buffer.address.toNat ≤ place → wordLimit ≤ place := by
  obtain ⟨positive, whole⟩ := alignment_dvd_wordLimit (isPowerOfTwo_iff.mp (bufferSize_ok requested).1)
  rw [← alignUp_eq_none_iff positive whole]
  unfold choose
  cases alignUp buffer.address.toNat layout.alignment.toNat with
  | none => simp [eq_comm]
  | some base => simp

/-- A window can be placed in one way only. -/
theorem Window.PlacedAt.choose (requested : Window.bufferSize layout = .ok size)
    (placed : Window.PlacedAt layout address window) :
    Window.choose layout ⟨address, Array.replicate size 0⟩ = .ok window := by
  cases chosen : Window.choose layout ⟨address, Array.replicate size 0⟩ with
  | error fault =>
      obtain ⟨-, top⟩ := (Window.choose_error_iff requested _).mp chosen
      obtain ⟨aligned, above⟩ := placed.base.1
      exact absurd window.base.toNat_lt (Nat.not_lt.mpr (top _ aligned above))
  | ok other =>
      have found := Window.choose_placed requested chosen
      have offset : other.offset = window.offset := by
        have same := found.base.unique placed.base
        rw [found.offset, placed.offset] at same
        exact Nat.add_left_cancel same
      obtain ⟨buffer, start, length⟩ := window
      obtain ⟨buffer', start', length'⟩ := other
      have held := found.buffer.trans placed.buffer.symm
      have sized := found.size.trans placed.size.symm
      simp only at held offset sized
      rw [held, offset, sized]

end Choosing

section Following

variable {layout : Layout} {history : History platform} {verdict : Except BootError Window}

theorem Window.allocate_verdict (follows : (Window.allocate layout).Follows history verdict) :
    WindowVerdict layout history verdict := by
  cases allocate_follows follows with
  | unrequested refused => exact .unrequested (simplify_bufferSize_iff.mp refused)
  | ungranted requested => exact .ungranted (bufferSize_iff.mp requested)
  | unaligned requested refused =>
      obtain ⟨rfl, top⟩ := (choose_error_iff requested _).mp refused
      exact .unaligned (bufferSize_iff.mp requested) top
  | chosen requested chosen => exact .placed (bufferSize_iff.mp requested) (choose_placed requested chosen)

theorem WindowVerdict.follows (ends : WindowVerdict layout history verdict) :
    (Window.allocate layout).Follows history verdict := by
  have behind {size : Nat} (asks : Window.Asks layout (.ok size))
      (rest : Attempt.Follows (I := platform) (do
        let buffer ← PoolBuffer.allocate .data size
        Attempt.onFailure buffer.release do
          let window ← Attempt.ofChecked (Window.choose layout buffer)
          Attempt.report [window.summary]
          return window) history verdict) : (Window.allocate layout).Follows history verdict :=
    Attempt.follows_bind.mpr
      (.inr ⟨size, [], history, Attempt.follows_ofChecked.mpr ⟨rfl, asks.bufferSize.symm⟩, rest, rfl⟩)
  cases ends with
  | unrequested asks =>
      exact Attempt.follows_bind.mpr (.inl ⟨_, Attempt.follows_ofChecked.mpr ⟨rfl, asks.bufferSize.symm⟩, rfl⟩)
  | ungranted asks =>
      refine behind asks (Attempt.follows_bind.mpr (.inl ⟨_, ?_, rfl⟩))
      exact PoolBuffer.follows_ungranted
  | @unaligned size grant freed asks top =>
      have refused := (Window.choose_error_iff (Window.bufferSize_iff.mpr asks)
        ⟨grant.address, Array.replicate size 0⟩).mpr ⟨rfl, top⟩
      refine behind asks (Attempt.follows_bind.mpr (.inr ⟨_, _, _, PoolBuffer.follows_granted, ?_, rfl⟩))
      refine Attempt.follows_onFailure.mpr (.inr ⟨_, [], _, ?_, PoolBuffer.follows_release, rfl, rfl⟩)
      refine Attempt.follows_bind.mpr (.inl ⟨_, Attempt.follows_ofChecked.mpr ⟨rfl, ?_⟩, rfl⟩)
      rw [refused]
      rfl
  | @placed size grant window asks placed =>
      have chosen := placed.choose (Window.bufferSize_iff.mpr asks)
      refine behind asks (Attempt.follows_bind.mpr (.inr ⟨_, _, _, PoolBuffer.follows_granted, ?_, rfl⟩))
      refine Attempt.follows_onFailure.mpr (.inl ⟨window, ?_, rfl⟩)
      refine Attempt.follows_bind.mpr (.inr ⟨window, [], [], Attempt.follows_ofChecked.mpr ⟨rfl, ?_⟩, ?_, rfl⟩)
      · rw [chosen]
        rfl
      · exact Attempt.follows_report_bind.mpr (Attempt.follows_pure.mpr ⟨rfl, rfl⟩)

end Following

/-- Choosing a window goes by the layout and by what the firmware replies. Nothing is requested exactly if the image is
empty, the alignment is no power of two or the sum of both is no 64-bit size. Otherwise the window starts at the least
aligned address, which is what masks give as well, or there is none and the buffer goes back. -/
theorem allocate_places_window (layout : Layout) :
    (∀ history verdict, (Window.allocate layout).Follows history verdict ↔ WindowVerdict layout history verdict) ∧
    (∀ history verdict, (Window.allocate layout).Follows history verdict →
      (history = [] ↔ layout.imageSize.toNat = 0 ∨ ¬ layout.alignment.toNat.isPowerOfTwo ∨
        2 ^ 64 ≤ layout.imageSize.toNat + layout.alignment.toNat)) ∧
    (layout.alignment.toNat.isPowerOfTwo → ∀ address : UInt64,
      (maskedUp address layout.alignment.toUInt64).map UInt64.toNat =
        alignUp address.toNat layout.alignment.toNat) := by
  refine ⟨fun _ _ => ⟨Window.allocate_verdict, WindowVerdict.follows⟩, fun history verdict follows => ?_, ?_⟩
  · cases Window.allocate_verdict follows with
    | unrequested asks => exact iff_of_true rfl asks.refused
    | ungranted asks | unaligned asks | placed asks => exact iff_of_false (List.cons_ne_nil _ _) asks.granted
  · intro power address
    rw [← UInt32.toNat_toUInt64] at power ⊢
    exact maskedUp_eq address power

def threeByteLayout : Layout where
  preferredBase := 0
  imageSize := 3
  entry := 0
  headersSize := 0
  sectionCount := 0
  sectionTable := 0
  relocations := .absent
  directoryCount := 0
  alignment := 4

def lateGrant : Grant := ⟨0xfffffffffffffff5, fun _ => 0xaa⟩

def topmostGrant : Grant := ⟨0xfffffffffffffffd, fun _ => 0xaa⟩

theorem allocate_places_window_topmost :
    (∃ window, (Window.allocate threeByteLayout).Follows [⟨.allocatePool .data 7, .ok lateGrant⟩] (.ok window) ∧
      window.base = 0xfffffffffffffff8 ∧ window.bytes = #[0, 0, 0]) ∧
    (Window.allocate threeByteLayout).Follows
      [⟨.allocatePool .data 7, .ok topmostGrant⟩, ⟨.freePool topmostGrant.address, Status.success⟩]
      (.error .outOfMemory) ∧
    ¬ (threeByteLayout.imageSize.toNat = 0 ∨ ¬ threeByteLayout.alignment.toNat.isPowerOfTwo ∨
      2 ^ 64 ≤ threeByteLayout.imageSize.toNat + threeByteLayout.alignment.toNat) ∧
    (maskedUp lateGrant.address 4).map UInt64.toNat = some 0xfffffffffffffff8 := by
  obtain ⟨ways, unrequested, masked⟩ := allocate_places_window threeByteLayout
  have power : threeByteLayout.alignment.toNat.isPowerOfTwo := ⟨2, rfl⟩
  have asks : Window.Asks threeByteLayout (.ok 7) := .whole (by decide) power (by decide)
  have placed : Window.PlacedAt threeByteLayout lateGrant.address ⟨⟨lateGrant.address, Array.replicate 7 0⟩, 3, 3⟩ := {
    base := by
      refine ⟨⟨by decide, by decide⟩, ?_⟩
      rintro place ⟨⟨quotient, rfl⟩, above⟩
      change 0xfffffffffffffff5 ≤ 4 * quotient at above
      change 0xfffffffffffffff8 ≤ 4 * quotient
      omega
    offset := rfl
    slack := by decide
    size := rfl
    buffer := rfl
    inside := by decide
    blank := by decide }
  have top : ∀ place, threeByteLayout.alignment.toNat ∣ place → topmostGrant.address.toNat ≤ place →
      2 ^ 64 ≤ place := by
    rintro _ ⟨quotient, rfl⟩ above
    change 0xfffffffffffffffd ≤ 4 * quotient at above
    change 2 ^ 64 ≤ 4 * quotient
    omega
  have follows := (ways _ _).mpr (.placed asks placed)
  refine ⟨⟨_, follows, rfl, by decide⟩, (ways _ _).mpr (.unaligned asks top), ?_, ?_⟩
  · exact mt (unrequested _ _ follows).mpr (List.cons_ne_nil _ _)
  · have same := masked power lateGrant.address
    exact same.trans (by decide)

end Image

end EfiHandoff
