import EfiHandoff.Platform.Memory

/-!
# A shelf of memory

Memory that is held under names, in the order of the names, and given back by name or all at once.
-/

set_option autoImplicit false

namespace EfiHandoff

open Platform

structure Held where
  bytes : Buffer
  release : Act Unit

def PoolBuffer.held (buffer : PoolBuffer) : Held := ⟨buffer.bytes, buffer.release⟩
def PageRange.held (range : PageRange) : Held := ⟨range.bytes, range.release⟩

/-- The memory on a shelf, by ascending names. -/
structure Shelf where
  entries : List (String × Held) := []

namespace Shelf

def bytes (shelf : Shelf) (name : String) : Buffer :=
  ((shelf.entries.lookup name).map Held.bytes).getD #[]

def write (shelf : Shelf) (name : String) (offset : Nat) (data : Bytes) : Shelf :=
  ⟨shelf.entries.map fun (other, held) =>
    (other, if other = name then { held with bytes := held.bytes.overwrite offset data } else held)⟩

def drop (shelf : Shelf) (name : String) : Act Shelf := do
  match shelf.entries.lookup name with
  | none => return shelf
  | some held =>
      held.release
      return ⟨shelf.entries.filter (·.1 ≠ name)⟩

/-- Holds memory under a name, and gives back what was held under it before. -/
def put (shelf : Shelf) (name : String) (held : Held) : Act Shelf := do
  let ⟨others⟩ ← shelf.drop name
  return ⟨others.filter (·.1 < name) ++ (name, held) :: others.filter (name < ·.1)⟩

def clear (shelf : Shelf) : Act Unit := shelf.entries.forM fun (_, held) => held.release

end Shelf

end EfiHandoff
