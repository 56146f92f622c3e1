import EfiHandoff.Platform.Memory

/-!
# An arena of simulated memory

Pool buffers and pages at fixed addresses that are never used twice, so that a run can be repeated address for
address. Fresh memory holds a byte that is not zero, and what was never allocated cannot be freed.
-/

set_option autoImplicit false

namespace EfiHandoff.Simulation

inductive Pot
  | pool
  | pages
deriving DecidableEq, Repr

/-- The state of an arena: where the next allocation of each kind goes, and what is allocated. -/
structure Arena where
  nextPool : Nat
  nextPages : Nat
  live : List (Pot × Nat)
deriving DecidableEq, Repr

namespace Arena

def base : Nat := 0x1000000000

def pagesBase : Nat := base + 0x2000000

def limit : Nat := base + 0x4000000

/-- An arena in which nothing is allocated. The pool starts `skew` bytes behind a round address. -/
def empty (skew : Nat) : Arena := ⟨base + 0x10000 + skew, pagesBase, []⟩

def fill : Pot → UInt8
  | .pool => 0xaa
  | .pages => 0xbb

def grant (pot : Pot) (address : Nat) : Grant := ⟨UInt64.ofNat address, fun _ => fill pot⟩

/-- Allocates pool memory in steps of 16 bytes. -/
def allocatePool (arena : Arena) (size : Nat) : Except Status Grant × Arena :=
  let after := arena.nextPool + (max size 1 + 15) / 16 * 16
  if after ≤ pagesBase then
    (.ok (grant .pool arena.nextPool),
      { arena with nextPool := after, live := (.pool, arena.nextPool) :: arena.live })
  else (.error .outOfResources, arena)

def allocatePages (arena : Arena) (pages : Nat) : Except Status Grant × Arena :=
  let after := arena.nextPages + max pages 1 * pageSize
  if after ≤ limit then
    (.ok (grant .pages arena.nextPages),
      { arena with nextPages := after, live := (.pages, arena.nextPages) :: arena.live })
  else (.error .outOfResources, arena)

def free (arena : Arena) (pot : Pot) (address : UInt64) : Status × Arena :=
  if (pot, address.toNat) ∈ arena.live then
    (.success, { arena with live := arena.live.erase (pot, address.toNat) })
  else (.invalidParameter, arena)

def contains (start size : Nat) : Bool := base ≤ start && start + size ≤ limit

end Arena

end EfiHandoff.Simulation
