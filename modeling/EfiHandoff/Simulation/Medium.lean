import EfiHandoff.Platform.Interface

/-!
# A simulated boot medium

Files by name, with settings for a medium that lies about sizes or fails, and the files open on it.
-/

set_option autoImplicit false

namespace EfiHandoff.Simulation

structure Medium where
  files : List (String × Buffer)
  /-- Served for a name that is not among the files. -/
  anyFile : Option Buffer := none
  claimedSize : Option UInt64 := none
  openError : Option FileError := none
  readError : Option FileError := none
  root : Option RootDevice
deriving DecidableEq, Repr

namespace Medium

def deviceHandle : Handle := 0xde7

def find? (medium : Medium) (name : String) : Option Buffer :=
  (medium.files.lookup name).or medium.anyFile

def reportedSize (medium : Medium) (file : Buffer) : UInt64 :=
  medium.claimedSize.getD (UInt64.ofNat file.size)

end Medium

structure OpenFiles where
  next : Handle := 1
  entries : List (Handle × Buffer × Nat) := []
deriving DecidableEq, Repr

namespace OpenFiles

def insert (files : OpenFiles) (contents : Buffer) : Handle × OpenFiles :=
  (files.next, ⟨files.next + 1, (files.next, contents, 0) :: files.entries⟩)

def erase (files : OpenFiles) (handle : Handle) : OpenFiles :=
  { files with entries := files.entries.filter (·.1 ≠ handle) }

/-- Reads exactly `length` bytes; when fewer are left, nothing is read. -/
def read (files : OpenFiles) (handle : Handle) (length : Nat) : Delivery × OpenFiles :=
  match files.entries.lookup handle with
  | none => (⟨#[], some .short⟩, files)
  | some (contents, position) =>
      if position + length ≤ contents.size then
        (⟨contents.slice position length, none⟩,
          { files with entries := (handle, contents, position + length) ::
              files.entries.filter (·.1 ≠ handle) })
      else (⟨#[], some .short⟩, files)

end OpenFiles

end EfiHandoff.Simulation
