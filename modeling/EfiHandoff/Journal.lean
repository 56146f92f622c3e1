import EfiHandoff.Status
import EfiHandoff.Text.Number

/-!
# The journal

What the loader reports while it works: entries with a level, the part of the loader that wrote them and a
message. Entries are values, so a function that reports returns them.
-/

set_option autoImplicit false

namespace EfiHandoff

/-- How grave an entry is. -/
inductive Level
  | error | warn | info | debug | trace
deriving DecidableEq, Repr

/-- The rank of a level: the graver, the lower. -/
def Level.rank : Level → Nat
  | .error => 1
  | .warn => 2
  | .info => 3
  | .debug => 4
  | .trace => 5

def Level.name : Level → String
  | .error => "error"
  | .warn => "warn"
  | .info => "info"
  | .debug => "debug"
  | .trace => "trace"

def Level.ofName? (name : String) : Option Level :=
  [Level.error, .warn, .info, .debug, .trace].find? (·.name = name)

inductive Origin
  | devicePath | image | header | section | relocation | container
  | handoff | options | firmware | systemTable | settings | console
deriving DecidableEq, Repr

def Origin.target : Origin → String
  | .devicePath => "crabefi_chainload::device_path"
  | .image => "crabefi_chainload::pe"
  | .header => "crabefi_chainload::pe::header"
  | .section => "crabefi_chainload::pe::section"
  | .relocation => "crabefi_chainload::pe::reloc"
  | .container => "crabefi_chainload::pe::universal"
  | .handoff => "crabefi_chainload::chainload"
  | .options => "crabefi_chainload::chainload::options"
  | .firmware => "crabefi_chainload::firmware"
  | .systemTable => "crabefi_chainload::firmware::efi"
  | .settings => "crabefi_chainload::config"
  | .console => "crabefi_chainload::logger"

structure Entry where
  level : Level
  target : String
  message : String
deriving DecidableEq, Repr

abbrev Journal := List Entry

namespace Origin

def error (origin : Origin) (message : String) : Entry := ⟨.error, origin.target, message⟩
def warn (origin : Origin) (message : String) : Entry := ⟨.warn, origin.target, message⟩
def info (origin : Origin) (message : String) : Entry := ⟨.info, origin.target, message⟩
def debug (origin : Origin) (message : String) : Entry := ⟨.debug, origin.target, message⟩

end Origin

def Status.shown (status : Status) : String := s!"Status({status.code})"

end EfiHandoff
