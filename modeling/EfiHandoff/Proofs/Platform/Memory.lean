import EfiHandoff.Platform.Memory
import EfiHandoff.Proofs.Program.Attempt

/-!
# How owned memory comes and goes

What is asked when a pool buffer or a range of pages is allocated, and when it is given back.
-/

set_option autoImplicit false

namespace EfiHandoff

section Pool

variable {history : History platform}

theorem PoolBuffer.release_follows {buffer : PoolBuffer} {result : Unit}
    (follows : buffer.release.Follows history result) :
    ∃ status, history = [⟨.freePool buffer.address, status⟩] := by
  obtain ⟨status, later, rfl, reported⟩ := Program.follows_ask.mp follows
  rw [Program.follows_report_if.mp reported]
  exact ⟨status, rfl⟩

theorem PoolBuffer.allocate_follows {kind : MemoryKind} {size : Nat}
    {verdict : Except BootError PoolBuffer}
    (follows : (PoolBuffer.allocate kind size).Follows history verdict) :
    (∃ status, history = [⟨.allocatePool kind size, .error status⟩] ∧
        verdict = .error .outOfMemory) ∨
      ∃ grant, history = [⟨.allocatePool kind size, .ok grant⟩] ∧
        verdict = .ok ⟨grant.address, Array.replicate size 0⟩ := by
  obtain ⟨reply, later, rfl, answered⟩ := Attempt.follows_ask.mp follows
  clear follows
  cases reply with
  | error status =>
      obtain ⟨rfl, rfl⟩ := Attempt.follows_ofChecked.mp answered
      exact .inl ⟨status, rfl, rfl⟩
  | ok grant =>
      obtain ⟨rfl, rfl⟩ := Attempt.follows_pure.mp answered
      exact .inr ⟨grant, rfl, rfl⟩

theorem PoolBuffer.follows_ungranted {kind : MemoryKind} {size : Nat} {status : Status} :
    (PoolBuffer.allocate kind size).Follows [⟨.allocatePool kind size, .error status⟩] (.error .outOfMemory) :=
  Attempt.follows_ask.mpr ⟨.error status, [], rfl, Attempt.follows_ofChecked.mpr ⟨rfl, rfl⟩⟩

theorem PoolBuffer.follows_granted {kind : MemoryKind} {size : Nat} {grant : Grant} :
    (PoolBuffer.allocate kind size).Follows [⟨.allocatePool kind size, .ok grant⟩]
      (.ok ⟨grant.address, Array.replicate size 0⟩) :=
  Attempt.follows_ask.mpr ⟨.ok grant, [], rfl, Attempt.follows_pure.mpr ⟨rfl, rfl⟩⟩

theorem PoolBuffer.follows_release {buffer : PoolBuffer} {status : Status} :
    buffer.release.Follows [⟨.freePool buffer.address, status⟩] () :=
  Program.follows_ask.mpr ⟨status, [], rfl, Program.follows_report_if.mpr rfl⟩

end Pool

section Pages

variable {history : History platform}

theorem PageRange.releaseAt_follows {address : UInt64} {pages : Nat} {result : Unit}
    (follows : (PageRange.releaseAt address pages).Follows history result) :
    ∃ status, history = [⟨.freePages address pages, status⟩] := by
  obtain ⟨status, later, rfl, reported⟩ := Program.follows_ask.mp follows
  rw [Program.follows_report_if.mp reported]
  exact ⟨status, rfl⟩

theorem PageRange.release_follows {range : PageRange} {result : Unit}
    (follows : range.release.Follows history result) :
    ∃ status, history = [⟨.freePages range.address range.pages, status⟩] :=
  releaseAt_follows follows

theorem PageRange.reserve_follows {kind : MemoryKind} {size : Nat}
    {verdict : Except BootError (PageRange × Grant)}
    (follows : (PageRange.reserve kind size).Follows history verdict) :
    (∃ status, history = [⟨.allocatePages kind (pagesFor size), .error status⟩] ∧
        verdict = .error .outOfMemory) ∨
      (∃ grant freed, grant.address = 0 ∧
        history = [⟨.allocatePages kind (pagesFor size), .ok grant⟩,
          ⟨.freePages grant.address (pagesFor size), freed⟩] ∧
        verdict = .error .outOfMemory) ∨
      ∃ grant, history = [⟨.allocatePages kind (pagesFor size), .ok grant⟩] ∧
        verdict = .ok (⟨grant.address, pagesFor size, #[]⟩, grant) := by
  obtain ⟨reply, later, rfl, answered⟩ := Attempt.follows_ask.mp follows
  clear follows
  cases reply with
  | error status =>
      obtain ⟨rfl, rfl⟩ := Attempt.follows_ofChecked.mp answered
      exact .inl ⟨status, rfl, rfl⟩
  | ok grant =>
      dsimp only at answered
      by_cases zero : grant.address = 0
      · rw [if_pos zero] at answered
        obtain ⟨first, second, refused, released, rfl⟩ := Attempt.follows_ensuring.mp answered
        obtain ⟨rfl, rfl⟩ := Attempt.follows_ofChecked.mp refused
        obtain ⟨freed, rfl⟩ := releaseAt_follows released
        refine .inr (.inl ⟨grant, freed, zero, ?_, rfl⟩)
        rw [zero]
        rfl
      · rw [if_neg zero] at answered
        obtain ⟨rfl, rfl⟩ := Attempt.follows_pure.mp answered
        exact .inr (.inr ⟨grant, rfl, rfl⟩)

end Pages

end EfiHandoff
