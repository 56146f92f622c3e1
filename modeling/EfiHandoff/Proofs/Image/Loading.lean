import EfiHandoff.Image.Loaded
import EfiHandoff.Proofs.Platform.Memory

/-!
# How loading an image goes

Loading asks for one pool buffer and for nothing else, and gives it back when it fails. The window of the image
lies inside the buffer.
-/

set_option autoImplicit false

namespace EfiHandoff

open Platform

namespace Image

section Window

variable {layout : Layout} {buffer : PoolBuffer} {window : Window} {size : Nat}

theorem alignUp_some {address alignment base : Nat} (positive : 0 < alignment)
    (found : alignUp address alignment = some base) :
    address ≤ base ∧ base < address + alignment ∧ base < wordLimit := by
  unfold alignUp checkedAdd at found
  split at found
  · next fits =>
      simp only [Option.map_some, Option.some.injEq] at found
      have quotient := Nat.div_add_mod (address + (alignment - 1)) alignment
      have remainder := Nat.mod_lt (address + (alignment - 1)) positive
      rw [Nat.mul_comm, found] at quotient
      omega
  · cases found

theorem alignUp_dvd {address alignment base : Nat} (found : alignUp address alignment = some base) :
    alignment ∣ base := by
  unfold alignUp at found
  obtain ⟨sum, -, rfl⟩ := Option.map_eq_some_iff.mp found
  exact Nat.dvd_mul_left _ _

theorem Window.bufferSize_ok (requested : bufferSize layout = .ok size) :
    isPowerOfTwo layout.alignment = true ∧
      size = layout.imageSize.toNat + layout.alignment.toNat := by
  unfold bufferSize at requested
  split at requested
  · cases requested
  split at requested
  · cases requested
  · next power =>
      refine ⟨by simpa using power, ?_⟩
      unfold checkedAdd at requested
      split at requested
      · cases requested
      · next sum =>
          split at sum
          · cases sum
            cases requested
            rfl
          · cases sum

theorem Window.choose_base (requested : bufferSize layout = .ok size)
    (chosen : choose layout buffer = .ok window) :
    ∃ base, alignUp buffer.address.toNat layout.alignment.toNat = some base ∧
      buffer.address.toNat ≤ base ∧ base < buffer.address.toNat + layout.alignment.toNat ∧
      base < wordLimit ∧
      window = ⟨buffer, base - buffer.address.toNat, layout.imageSize.toNat⟩ := by
  have power := (bufferSize_ok requested).1
  have positive : 0 < layout.alignment.toNat := by
    apply Nat.pos_of_ne_zero
    intro zero
    have same : layout.alignment = 0 := UInt32.toNat_inj.mp zero
    rw [same] at power
    cases power
  unfold choose at chosen
  cases aligned : alignUp buffer.address.toNat layout.alignment.toNat with
  | none =>
      rw [aligned] at chosen
      cases chosen
  | some base =>
      rw [aligned] at chosen
      cases chosen
      obtain ⟨above, below, fits⟩ := alignUp_some positive aligned
      exact ⟨base, rfl, above, below, fits, rfl⟩

theorem Window.choose_ok (requested : bufferSize layout = .ok size)
    (chosen : choose layout buffer = .ok window) :
    window.buffer = buffer ∧ window.size = layout.imageSize.toNat ∧
      window.offset + window.size ≤ size ∧ buffer.address.toNat + window.offset < wordLimit := by
  obtain ⟨base, -, above, below, fits, rfl⟩ := choose_base requested chosen
  have sized := (bufferSize_ok requested).2
  exact ⟨rfl, rfl, by simp only; omega, by simp only; omega⟩

theorem Window.base_toNat (requested : bufferSize layout = .ok size)
    (chosen : choose layout buffer = .ok window) :
    window.base.toNat = buffer.address.toNat + window.offset := by
  obtain ⟨same, -, -, fits⟩ := choose_ok requested chosen
  unfold base
  rw [same, UInt64.toNat_add, UInt64.toNat_ofNat', Nat.add_mod_mod]
  exact Nat.mod_eq_of_lt fits

theorem Window.choose_aligned (requested : bufferSize layout = .ok size)
    (chosen : choose layout buffer = .ok window) : layout.alignment.toNat ∣ window.base.toNat := by
  rw [base_toNat requested chosen]
  obtain ⟨base, aligned, above, -, -, rfl⟩ := choose_base requested chosen
  rw [Nat.add_sub_cancel' above]
  exact alignUp_dvd aligned

end Window

inductive Allocating (layout : Layout) :
    History platform → Except BootError Window → Prop where
  | unrequested {error : BootError}
      (refused : Fault.simplify (Window.bufferSize layout) = .error error) :
      Allocating layout [] (.error error)
  | ungranted {size : Nat} {status : Status} (requested : Window.bufferSize layout = .ok size) :
      Allocating layout [⟨.allocatePool .data size, .error status⟩] (.error .outOfMemory)
  | unaligned {size : Nat} {grant : Grant} {freed : Status} {fault : WindowFault}
      (requested : Window.bufferSize layout = .ok size)
      (refused : Window.choose layout ⟨grant.address, Array.replicate size 0⟩ = .error fault) :
      Allocating layout [⟨.allocatePool .data size, .ok grant⟩, ⟨.freePool grant.address, freed⟩]
        (.error (Fault.error fault))
  | chosen {size : Nat} {grant : Grant} {window : Window}
      (requested : Window.bufferSize layout = .ok size)
      (chosen : Window.choose layout ⟨grant.address, Array.replicate size 0⟩ = .ok window) :
      Allocating layout [⟨.allocatePool .data size, .ok grant⟩] (.ok window)

inductive Loading (layout : Layout) :
    History platform → Except BootError Loaded → Prop where
  | unrequested {error : BootError}
      (refused : Fault.simplify (Window.bufferSize layout) = .error error) :
      Loading layout [] (.error error)
  | ungranted {size : Nat} {status : Status} (requested : Window.bufferSize layout = .ok size) :
      Loading layout [⟨.allocatePool .data size, .error status⟩] (.error .outOfMemory)
  | failed {size : Nat} {grant : Grant} {freed : Status} {error : BootError}
      (requested : Window.bufferSize layout = .ok size) :
      Loading layout [⟨.allocatePool .data size, .ok grant⟩, ⟨.freePool grant.address, freed⟩]
        (.error error)
  | loaded {size : Nat} {grant : Grant} {loaded : Loaded}
      (requested : Window.bufferSize layout = .ok size)
      (chosen : Window.choose layout ⟨grant.address, Array.replicate size 0⟩ = .ok loaded.window) :
      Loading layout [⟨.allocatePool .data size, .ok grant⟩] (.ok loaded)

section Follows

variable {file : Buffer} {layout : Layout} {history : History platform}

theorem fill_confined (allowed : Platform.Call → Prop) (image : Buffer) :
    Attempt.Confined (I := platform) allowed (fill file layout image) := by
  refine (Attempt.confined_ofChecked _).bind fun withHeaders => ?_
  exact (Attempt.confined_report _).bind fun _ => Attempt.confined_ofChecked _

theorem settle_confined (allowed : Platform.Call → Prop) (base : UInt64) (image : Buffer) :
    Attempt.Confined (I := platform) allowed (settle layout base image) := by
  unfold settle
  split
  · refine (Attempt.confined_report _).bind fun _ => ?_
    refine (Attempt.confined_checked _).bind fun _ => ?_
    split
    · exact trivial
    · exact Attempt.confined_fail _ _
  · exact trivial

theorem Window.allocate_follows {verdict : Except BootError Window}
    (follows : (Window.allocate layout).Follows history verdict) : Allocating layout history verdict := by
  obtain ⟨error, failed, rfl⟩ | ⟨size, empty, later, requested, granting, rfl⟩ :=
    Attempt.follows_bind.mp follows
  · obtain ⟨rfl, same⟩ := Attempt.follows_ofChecked.mp failed
    exact .unrequested same.symm
  obtain ⟨rfl, same⟩ := Attempt.follows_ofChecked.mp requested
  have sized := Fault.simplify_eq_ok_iff.mp same.symm
  rw [List.nil_append]
  obtain ⟨error, failed, rfl⟩ | ⟨buffer, first, later, granted, choosing, rfl⟩ :=
    Attempt.follows_bind.mp granting
  · obtain ⟨status, rfl, ⟨⟩⟩ | ⟨grant, -, ⟨⟩⟩ := PoolBuffer.allocate_follows failed
    exact .ungranted sized
  obtain ⟨_, _, ⟨⟩⟩ | ⟨grant, rfl, ⟨⟩⟩ := PoolBuffer.allocate_follows granted
  obtain ⟨window, chosen, rfl⟩ | ⟨error, empty, second, unchosen, released, rfl, rfl⟩ :=
    Attempt.follows_onFailure.mp choosing
  · obtain ⟨_, _, ⟨⟩⟩ | ⟨found, empty, last, accepted, reported, rfl⟩ :=
      Attempt.follows_bind.mp chosen
    obtain ⟨rfl, same⟩ := Attempt.follows_ofChecked.mp accepted
    rw [Attempt.follows_report_bind] at reported
    obtain ⟨rfl, ⟨⟩⟩ := Attempt.follows_pure.mp reported
    exact .chosen sized (Fault.simplify_eq_ok_iff.mp same.symm)
  · obtain ⟨freed, rfl⟩ := PoolBuffer.release_follows released
    obtain ⟨_, choice, ⟨⟩⟩ | ⟨window, _, last, _, reported, rfl⟩ := Attempt.follows_bind.mp unchosen
    · obtain ⟨rfl, same⟩ := Attempt.follows_ofChecked.mp choice
      obtain ⟨fault, refused, rfl⟩ := Fault.simplify_eq_error_iff.mp same.symm
      exact .unaligned sized refused
    · rw [Attempt.follows_report_bind] at reported
      obtain ⟨-, ⟨⟩⟩ := Attempt.follows_pure.mp reported

theorem filling_follows {window : Window} {verdict : Except BootError Loaded}
    (follows : Attempt.Follows (I := platform) (do
      let filled ← fill file layout window.bytes
      let (bytes, entry) ← settle layout window.base filled
      let base := Text.hex window.base.toNat
      let start := Text.hex entry.toNat
      Attempt.report [Origin.image.info s!"PE: Loaded image at {base}, entry point at {start}"]
      return ⟨window, bytes, entry⟩) history verdict) :
    history = [] ∧ ∀ loaded, verdict = .ok loaded → loaded.window = window ∧
      ∃ filled, Attempt.Follows (I := platform) (fill file layout window.bytes) [] (.ok filled) ∧
        Attempt.Follows (I := platform) (settle layout window.base filled) []
          (.ok (loaded.bytes, loaded.entry)) := by
  obtain ⟨error, failed, rfl⟩ | ⟨filled, first, later, filling, settling, rfl⟩ :=
    Attempt.follows_bind.mp follows
  · exact ⟨(fill_confined _ _).silent failed, by simp⟩
  obtain rfl := (fill_confined _ _).silent filling
  obtain ⟨error, failed, rfl⟩ | ⟨⟨bytes, entry⟩, first, last, settled, ended, rfl⟩ :=
    Attempt.follows_bind.mp settling
  · exact ⟨(settle_confined _ _ _).silent failed, by simp⟩
  obtain rfl := (settle_confined _ _ _).silent settled
  rw [Attempt.follows_report_bind] at ended
  obtain ⟨rfl, rfl⟩ := Attempt.follows_pure.mp ended
  refine ⟨rfl, ?_⟩
  intro _ same
  cases same
  exact ⟨rfl, filled, filling, settled⟩

theorem load_follows {verdict : Except BootError Loaded}
    (follows : (load file layout).Follows history verdict) : Loading layout history verdict := by
  obtain ⟨error, failed, rfl⟩ | ⟨window, first, later, allocated, filling, rfl⟩ :=
    Attempt.follows_bind.mp follows
  · cases Window.allocate_follows failed with
    | unrequested refused => exact .unrequested refused
    | ungranted requested => exact .ungranted requested
    | unaligned requested => exact .failed requested
  cases Window.allocate_follows allocated with
  | chosen sized chosen =>
      obtain ⟨loaded, filled, rfl⟩ | ⟨error, empty, second, unfilled, released, rfl, rfl⟩ :=
        Attempt.follows_onFailure.mp filling
      · obtain ⟨rfl, same⟩ := filling_follows filled
        exact .loaded sized ((same loaded rfl).1 ▸ chosen)
      · obtain ⟨rfl, -⟩ := filling_follows unfilled
        obtain ⟨freed, rfl⟩ := PoolBuffer.release_follows released
        have place := congrArg PoolBuffer.address (Window.choose_ok sized chosen).1
        rw [place]
        exact .failed sized

end Follows

end Image

end EfiHandoff
