import EfiHandoff.Simulation.Arena
import EfiHandoff.Simulation.Medium

/-!
# A scripted platform

A platform whose every answer is settled in advance by a script. It keeps a list of what was asked of it, with
the answers.
-/

set_option autoImplicit false

namespace EfiHandoff.Simulation

structure TrustScript where
  verdict : Except Status Unit := .ok ()
  layout : Option (Except BootError Image.Layout) := none

def TrustScript.source (trust : TrustScript) : LayoutSource :=
  if trust.layout.isSome then .own else .headers

structure Script where
  poolFailure : Status := .success
  pagesFailure : Status := .success
  pagesAtZero : Bool := false
  freeAnswer : Option Status := none
  secureBoot : SecureBootMode := .disabled
  trustRoot : Option TrustScript := none
  loadStatus : Status := .success
  configureStatus : Status := .success
  exit : ImageExit := ⟨.success, none⟩
  entryStatus : Status := .success
  unloadStatus : Status := .success

inductive Event
  | allocatedPool (kind : MemoryKind) (size : Nat) (outcome : Except Status UInt64)
  | freedPool (address : UInt64) (status : Status)
  | allocatedPages (kind : MemoryKind) (pages : Nat) (outcome : Except Status UInt64)
  | freedPages (address : UInt64) (pages : Nat) (status : Status)
  | loadedImage (path : Bytes) (image : Buffer) (status : Status)
  | configuredImage (image device : Handle) (options : Option (List UInt16)) (status : Status)
  | startedImage (image : Handle)
  | unloadedImage (image : Handle)
  | tookSnapshot
  | installed (record : ImageRecord)
  | restored (record : ImageRecord)
  | calledEntry (entry : UInt64) (active : Option ImageRecord) (image : Option Buffer)
  | verified (image : Buffer)
  | askedLayout (image : Buffer)
  | opened (path : List Char)
  | askedRoot
  | read (length : Nat)
  | closed

structure Scripted where
  script : Script
  medium : Medium
  arena : Arena
  active : Option ImageRecord
  openFiles : OpenFiles := {}
  events : List Event := []

def imageHandle : Handle := 0x1ae0

def loaderRecord (device : Handle) : ImageRecord where
  base := 0x7f000000
  size := 0x40000
  options := none
  optionsSize := 0
  filePath := none
  device := device

namespace Scripted

def log (state : Scripted) (event : Event) : Scripted :=
  { state with events := event :: state.events }

def outcomeOf (reply : Except Status Grant) : Except Status UInt64 := reply.map Grant.address

def allocatePool (state : Scripted) (kind : MemoryKind) (size : Nat) :
    Except Status Grant × Scripted :=
  let (reply, arena) :=
    if state.script.poolFailure.isSuccess then state.arena.allocatePool size
    else (.error state.script.poolFailure, state.arena)
  (reply, { state with arena }.log (.allocatedPool kind size (outcomeOf reply)))

/-- Allocates pages as the script says; that they lie at address zero goes before any failure. -/
def allocatePages (state : Scripted) (kind : MemoryKind) (pages : Nat) :
    Except Status Grant × Scripted :=
  let (reply, arena) :=
    if state.script.pagesAtZero then (.ok ⟨0, fun _ => 0⟩, state.arena)
    else if state.script.pagesFailure.isSuccess then state.arena.allocatePages pages
    else (.error state.script.pagesFailure, state.arena)
  (reply, { state with arena }.log (.allocatedPages kind pages (outcomeOf reply)))

def freeReply (state : Scripted) (status : Status) : Status :=
  state.script.freeAnswer.getD status

def freePool (state : Scripted) (address : UInt64) : Status × Scripted :=
  let (status, arena) := state.arena.free .pool address
  (state.freeReply status, { state with arena }.log (.freedPool address status))

/-- Frees pages; freeing those at address zero always works. -/
def freePages (state : Scripted) (address : UInt64) (pages : Nat) : Status × Scripted :=
  let (status, arena) :=
    if address = 0 then (.success, state.arena) else state.arena.free .pages address
  (state.freeReply status, { state with arena }.log (.freedPages address pages status))

def loadImage (state : Scripted) (path : Bytes) (image : Buffer) :
    Except Status Handle × Scripted :=
  let status := state.script.loadStatus
  (status.toExcept.map fun _ => imageHandle, state.log (.loadedImage path image status))

def callEntry (state : Scripted) (entry : UInt64) (image : Buffer) : Status × Scripted :=
  let seen := state.active.bind fun record =>
    if Arena.contains record.base.toNat record.size.toNat then some image else none
  (state.script.entryStatus, state.log (.calledEntry entry state.active seen))

def openFile (state : Scripted) (path : List Char) : Except FileError OpenFile × Scripted :=
  let logged := state.log (.opened path)
  match state.medium.openError with
  | some error => (.error error, logged)
  | none =>
      match state.medium.find? (String.ofList path) with
      | none => (.error .notFound, logged)
      | some contents =>
          let (handle, openFiles) := state.openFiles.insert contents
          (.ok ⟨handle, state.medium.reportedSize contents⟩, { logged with openFiles })

def readFile (state : Scripted) (file : OpenFile) (length : Nat) : Delivery × Scripted :=
  let logged := state.log (.read length)
  match state.medium.readError with
  | some error => (⟨#[], some error⟩, logged)
  | none =>
      let (delivery, openFiles) := state.openFiles.read file.handle length
      (delivery, { logged with openFiles })

def answer (question : Platform.Call) (state : Scripted) : Platform.Reply question × Scripted :=
  match question with
  | .allocatePool kind size => state.allocatePool kind size
  | .freePool address => state.freePool address
  | .allocatePages kind pages => state.allocatePages kind pages
  | .freePages address pages => state.freePages address pages
  | .loadImage path image => state.loadImage path image
  | .configureImage image device options =>
      let status := state.script.configureStatus
      (status.toExcept, state.log (.configuredImage image device options status))
  | .startImage image => (state.script.exit, state.log (.startedImage image))
  | .unloadImage image => (state.script.unloadStatus, state.log (.unloadedImage image))
  | .callEntry entry image => state.callEntry entry image
  | .snapshot => (state.active, state.log .tookSnapshot)
  | .install record => ((), { state with active := some record }.log (.installed record))
  | .restore record => ((), { state with active := some record }.log (.restored record))
  | .secureBootMode => (state.script.secureBoot, state)
  | .trustRoot => (state.script.trustRoot.map TrustScript.source, state)
  | .verify image =>
      ((state.script.trustRoot.map TrustScript.verdict).getD (.error .unsupported),
        state.log (.verified image))
  | .layoutOf image =>
      (((state.script.trustRoot.bind TrustScript.layout).getD (.error .contextUnsupported)),
        state.log (.askedLayout image))
  | .openFile path => state.openFile path
  | .rootDevice => (state.medium.root, state.log .askedRoot)
  | .readFile file length => state.readFile file length
  | .closeFile file =>
      ((), { state with openFiles := state.openFiles.erase file.handle }.log .closed)

def machine : Machine platform Scripted := ⟨answer⟩

end Scripted

end EfiHandoff.Simulation
