import EfiHandoff.DevicePath.Node
import EfiHandoff.Simulation.Scripted

/-!
# A platform in memory

A platform with as much memory as there is room for, which notes the calls that matter to a user: images loaded,
configured, unloaded and entered, and pages freed.
-/

set_option autoImplicit false

namespace EfiHandoff.Simulation

structure EntryCall where
  entry : UInt64
  active : Option ImageRecord
  options : List UInt16
  filePath : Bytes
deriving DecidableEq, Repr

structure Notes where
  loads : List (Bytes × Buffer) := []
  configured : List (Handle × Option (List UInt16)) := []
  unloads : List Handle := []
  entries : List EntryCall := []
  freedPages : List (UInt64 × Nat) := []

structure InMemory where
  secureBoot : SecureBootMode := .disabled
  trustRoot : Option TrustScript := none
  loadStatus : Status := .success
  entryStatus : Status := .success
  exit : ImageExit := ⟨.success, none⟩
  failAllocations : Bool := false
  pagesAtZero : Bool := false
  active : Option ImageRecord := some (loaderRecord 0x5a5a)
  medium : Medium
  openFiles : OpenFiles := {}
  next : Nat := 0x100000
  live : List UInt64 := []
  notes : Notes := {}

namespace InMemory

def poolAlignment : Nat := 8

/-- Sizes that reach this limit when rounded up to their alignment are not sizes at all. -/
def sizeLimit : Nat := 0x8000000000000000

def roomLimit : Nat := 0x800000000000

def roundUp (value unit : Nat) : Nat := (value + unit - 1) / unit * unit

/-- The size of at least one page in bytes, as a word: a number of pages too large for one starts over. -/
def pagesSize (pages : Nat) : Nat := max pages 1 * pageSize % wordLimit

def allocate (state : InMemory) (size alignment : Nat) : Except Status Grant × InMemory :=
  if sizeLimit ≤ roundUp size alignment then (.error .invalidParameter, state)
  else if state.failAllocations ∨ roomLimit ≤ size then (.error .outOfResources, state)
  else
    let place := roundUp state.next alignment
    let address := UInt64.ofNat place
    (.ok ⟨address, fun _ => 0⟩,
      { state with next := place + size, live := address :: state.live })

def free (state : InMemory) (address : UInt64) : Status × InMemory :=
  if address ∈ state.live then (.success, { state with live := state.live.erase address })
  else (.invalidParameter, state)

/-- Notes the pages and frees them; freeing those at address zero always works. -/
def freePages (state : InMemory) (address : UInt64) (pages : Nat) : Status × InMemory :=
  let noted :=
    { state with notes :=
        { state.notes with freedPages := (address, pages) :: state.notes.freedPages } }
  if address = 0 then (.success, noted) else noted.free address

def entryCall (active : Option ImageRecord) (entry : UInt64) : EntryCall where
  entry := entry
  active := active
  options := (active.bind ImageRecord.options).getD []
  filePath := DevicePath.upToEnd ((active.bind ImageRecord.filePath).getD [])

def openFile (state : InMemory) (path : List Char) : Except FileError OpenFile × InMemory :=
  match state.medium.files.lookup (String.ofList path) with
  | none => (.error .notFound, state)
  | some contents =>
      let (handle, openFiles) := state.openFiles.insert contents
      (.ok ⟨handle, state.medium.reportedSize contents⟩, { state with openFiles })

def answer (question : Platform.Call) (state : InMemory) : Platform.Reply question × InMemory :=
  match question with
  | .allocatePool _ size => state.allocate (max size 1) poolAlignment
  | .freePool address => state.free address
  | .allocatePages _ pages =>
      if state.pagesAtZero then (.ok ⟨0, fun _ => 0⟩, state)
      else state.allocate (pagesSize pages) pageSize
  | .freePages address pages => state.freePages address pages
  | .loadImage path image =>
      (state.loadStatus.toExcept.map fun _ => imageHandle,
        { state with notes := { state.notes with loads := (path, image) :: state.notes.loads } })
  | .configureImage _ device options =>
      (.ok (), { state with notes :=
        { state.notes with configured := (device, options) :: state.notes.configured } })
  | .startImage _ => (state.exit, state)
  | .unloadImage image =>
      (.success, { state with notes :=
        { state.notes with unloads := image :: state.notes.unloads } })
  | .callEntry entry _ =>
      (state.entryStatus, { state with notes :=
        { state.notes with entries := entryCall state.active entry :: state.notes.entries } })
  | .snapshot => (state.active, state)
  | .install record => ((), { state with active := some record })
  | .restore record => ((), { state with active := some record })
  | .secureBootMode => (state.secureBoot, state)
  | .trustRoot => (state.trustRoot.map TrustScript.source, state)
  | .verify _ =>
      ((state.trustRoot.map TrustScript.verdict).getD (.error .unsupported), state)
  | .layoutOf _ =>
      (((state.trustRoot.bind TrustScript.layout).getD (.error .contextUnsupported)), state)
  | .openFile path => state.openFile path
  | .rootDevice => (state.medium.root, state)
  | .readFile file length =>
      let (delivery, openFiles) := state.openFiles.read file.handle length
      (delivery, { state with openFiles })
  | .closeFile file => ((), { state with openFiles := state.openFiles.erase file.handle })

def machine : Machine platform InMemory := ⟨answer⟩

end InMemory

end EfiHandoff.Simulation
