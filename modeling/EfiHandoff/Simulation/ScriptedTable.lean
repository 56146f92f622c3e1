import EfiHandoff.DevicePath.Node
import EfiHandoff.Simulation.Scripted
import EfiHandoff.SystemTable.Services

/-!
# A scripted system table

An EFI environment whose every answer is settled in advance by a script. It keeps a list of the calls it
received.
-/

set_option autoImplicit false

namespace EfiHandoff.Simulation

inductive Presence
  | present
  | missing
  | null
  | answers (status : Status)
deriving DecidableEq, Repr

def Presence.found (presence : Presence) (address : UInt64) : Found :=
  match presence with
  | .present => ⟨.success, address⟩
  | .missing => ⟨.notFound, 0⟩
  | .null => ⟨.success, 0⟩
  | .answers status => ⟨status, address⟩

structure ShimScript where
  presence : Presence := .present
  verdict : Status := .success
  context : Option (Status × ShimContext) := none
deriving Repr

/-- The exit data of a scripted image: its bytes, and the size it claims they have. -/
structure ExitScript where
  status : Status := .success
  data : Option Buffer := none
  size : Option Nat := none
deriving Repr

structure TableScript where
  poolFailure : Status := .success
  pagesFailure : Status := .success
  poolNull : Bool := false
  pagesAtZero : Bool := false
  shim : Option ShimScript := none
  loaderPresence : Presence := .present
  childPresence : Presence := .present
  fileSystem : Presence := .present
  pathPresence : Presence := .present
  devicePath : Bytes
  nonvolatile : List (String × Except Status Buffer) := []
  files : List (String × Buffer) := []
  anyFile : Option Buffer := none
  openVolumeStatus : Status := .success
  openStatus : Status := .success
  seekStatus : Status := .success
  rewindStatus : Status := .success
  positionStatus : Status := .success
  claimedSize : Option UInt64 := none
  chunk : Option Nat := none
  /-- The number of the read from which on `readStatus` is the answer. -/
  readFailsFrom : Nat := 0
  readStatus : Status := .success
  loadStatus : Status := .success
  unloadStatus : Status := .success
  entryStatus : Status := .success
  exit : ExitScript := {}

inductive TableEvent
  | located (protocol : Guid)
  | handled (handle : Handle) (protocol : Guid)
  | gotVariable (name : List UInt16) (vendor : Guid) (size : Nat)
  | allocatedPool (kind : UInt32) (size : Nat) (outcome : Except Status UInt64)
  | freedPool (address : UInt64) (status : Status)
  | allocatedPages (strategy kind : UInt32) (pages : Nat) (outcome : Except Status UInt64)
  | freedPages (address : UInt64) (pages : Nat) (status : Status)
  | loadedImage (bootPolicy : Bool) (parent : Handle) (path : Bytes) (image : Buffer)
      (status : Status)
  | startedImage (image : Handle) (child : ImageRecord) (exitData : UInt64)
  | unloadedImage (image : Handle)
  | openedVolume (status : Status)
  | opened (onRoot : Bool) (name : List UInt16) (mode attributes : UInt64)
  | closed (root : Bool)
  | setPosition (position : UInt64) (status : Status)
  | gotPosition (position : UInt64) (status : Status)
  | read (wanted given : Nat) (status : Status)
  | shimVerified (image : Buffer)
  | shimContext (image : Buffer)
  | entered (handle : Handle) (rightTable : Bool) (record : ImageRecord)

structure ScriptedTable where
  script : TableScript
  arena : Arena
  loader : ImageRecord
  child : ImageRecord := ⟨0, 0, none, 0, none, 0⟩
  openFiles : OpenFiles := { next := 0x2000 }
  reads : Nat := 0
  exitData : Option (UInt64 × Buffer) := none
  events : List TableEvent := []

namespace ScriptedTable

def loaderHandle : Handle := 0x1000

def tableAddress : UInt64 := 0x100
def shimAddress : UInt64 := 0x200
def loaderAddress : UInt64 := 0x300
def childAddress : UInt64 := 0x400
def fileSystemAddress : UInt64 := 0x500
def pathAddress : UInt64 := 0x600
def rootAddress : UInt64 := 0x700

def log (state : ScriptedTable) (event : TableEvent) : ScriptedTable :=
  { state with events := event :: state.events }

def outcomeOf (status : Status) (grant : Grant) : Except Status UInt64 :=
  status.toExcept.map fun _ => grant.address

def nothing : Grant := ⟨0, fun _ => 0⟩

def split (reply : Except Status Grant) : Status × Grant :=
  match reply with
  | .ok grant => (.success, grant)
  | .error status => (status, nothing)

def allocatePool (state : ScriptedTable) (kind : UInt32) (size : Nat) :
    (Status × Grant) × ScriptedTable :=
  let (reply, arena) :=
    if !state.script.poolFailure.isSuccess then (.error state.script.poolFailure, state.arena)
    else if state.script.poolNull then (.ok nothing, state.arena)
    else state.arena.allocatePool size
  let (status, grant) := split reply
  ((status, grant), { state with arena }.log (.allocatedPool kind size (outcomeOf status grant)))

def allocatePages (state : ScriptedTable) (strategy kind : UInt32) (pages : Nat) :
    (Status × Grant) × ScriptedTable :=
  let (reply, arena) :=
    if !state.script.pagesFailure.isSuccess then (.error state.script.pagesFailure, state.arena)
    else if state.script.pagesAtZero then (.ok nothing, state.arena)
    else state.arena.allocatePages pages
  let (status, grant) := split reply
  ((status, grant),
    { state with arena }.log (.allocatedPages strategy kind pages (outcomeOf status grant)))

/-- Looks a protocol up on a handle. The record of an image is there for the loader and its child only; the
other protocols answer on any handle. -/
def handleProtocol (script : TableScript) (handle : Handle) (protocol : Guid) : Found :=
  if protocol = .loadedImage then
    if handle = loaderHandle then script.loaderPresence.found loaderAddress
    else if handle = imageHandle then script.childPresence.found childAddress
    else ⟨.unsupported, 0⟩
  else if protocol = .simpleFileSystem then script.fileSystem.found fileSystemAddress
  else if protocol = .devicePath then script.pathPresence.found pathAddress
  else ⟨.unsupported, 0⟩

def nameText (name : List UInt16) : String :=
  String.ofList (Utf16.decode (Utf16.untilNul name))

def getVariable (script : TableScript) (name : List UInt16) (size : Nat) : VariableReply :=
  match script.nonvolatile.lookup (nameText name) with
  | none => ⟨.notFound, size, []⟩
  | some (.error status) => ⟨status, size, []⟩
  | some (.ok value) =>
      if size < value.size then ⟨.bufferTooSmall, value.size, []⟩
      else ⟨.success, value.size, value.toList⟩

/-- Takes an image. A device path handed over ends with its end node, whatever stands behind it. -/
def loadImage (state : ScriptedTable) (bootPolicy : Bool) (parent : Handle) (path : Bytes)
    (image : Buffer) : (Status × Handle) × ScriptedTable :=
  let status := state.script.loadStatus
  let event := .loadedImage bootPolicy parent (DevicePath.upToEnd path) image status
  ((status, imageHandle), state.log event)

/-- Starts the child, which leaves its exit data in a pool buffer of its own. -/
def startImage (state : ScriptedTable) (image : Handle) : StartReply × ScriptedTable :=
  let exit := state.script.exit
  match exit.data with
  | none =>
      (⟨exit.status, 0, exit.size.getD 0⟩, state.log (.startedImage image state.child 0))
  | some data =>
      let (reply, arena) := state.arena.allocatePool data.size
      let address := (split reply).2.address
      (⟨exit.status, address, exit.size.getD data.size⟩,
        { state with arena, exitData := some (address, data) }.log
          (.startedImage image state.child address))

def openFile (state : ScriptedTable) (directory : UInt64) (name : List UInt16)
    (mode attributes : UInt64) : Found × ScriptedTable :=
  let logged :=
    state.log (.opened (directory == rootAddress) (Utf16.untilNul name) mode attributes)
  if !state.script.openStatus.isSuccess then (⟨state.script.openStatus, 0⟩, logged)
  else
    match (state.script.files.lookup (nameText name)).or state.script.anyFile with
    | none => (⟨.notFound, 0⟩, logged)
    | some contents =>
        let (handle, openFiles) := state.openFiles.insert contents
        (⟨.success, handle⟩, { logged with openFiles })

def setPosition (state : ScriptedTable) (file position : UInt64) : Status × ScriptedTable :=
  let status := if position = 0 then state.script.rewindStatus else state.script.seekStatus
  let entries := state.openFiles.entries.map fun (handle, contents, place) =>
    if handle = file ∧ status.isSuccess then
      (handle, contents, if position = Volume.endPosition then contents.size else position.toNat)
    else (handle, contents, place)
  let moved := { state with openFiles := { state.openFiles with entries } }
  (status, moved.log (.setPosition position status))

def getPosition (state : ScriptedTable) (file : UInt64) : (Status × UInt64) × ScriptedTable :=
  let place := ((state.openFiles.entries.lookup file).map fun (_, place) => place).getD 0
  let position := state.script.claimedSize.getD (UInt64.ofNat place)
  let status := state.script.positionStatus
  ((status, position), state.log (.gotPosition position status))

/-- Delivers what is left of an open file, in pieces no larger than the script allows. -/
def readFile (state : ScriptedTable) (file : UInt64) (wanted : Nat) :
    (Status × Buffer) × ScriptedTable :=
  let (contents, place) := (state.openFiles.entries.lookup file).getD (#[], 0)
  let given := min (min wanted (state.script.chunk.getD wanted)) (contents.size - place)
  let fails := !state.script.readStatus.isSuccess && state.script.readFailsFrom ≤ state.reads
  let status := if fails then state.script.readStatus else .success
  let counted := { state with reads := state.reads + 1 }.log (.read wanted given status)
  if fails then ((status, #[]), counted)
  else
    let (delivery, openFiles) := state.openFiles.read file given
    ((status, delivery.bytes), { counted with openFiles })

/-- The answer of the shim to a request to check an image. One that was taken away since it was found lets
every image pass. -/
def shimVerdict (script : TableScript) : Status :=
  (script.shim.map ShimScript.verdict).getD .success

def shimContext (script : TableScript) : Status × ShimContext :=
  (script.shim.bind ShimScript.context).getD (.unsupported, ⟨0, 0, 0, 0, 0, none, none, 0, none⟩)

/-- What lies in memory from an address on. A device path is followed by zeros and exit data by fresh
memory. -/
def memory (state : ScriptedTable) (address : UInt64) : Nat → UInt8 :=
  if address = pathAddress then
    let path := state.script.devicePath.toArray
    fun index => path.getD index 0
  else
    match state.exitData with
    | some (place, data) =>
        if address = place then fun index => data.getD index (Arena.fill .pool) else fun _ => 0
    | none => fun _ => 0

def recordAt (state : ScriptedTable) (address : UInt64) : ImageRecord :=
  if address = childAddress then state.child else state.loader

def store (state : ScriptedTable) (address : UInt64) (field : FieldWrite) : ScriptedTable :=
  if address = childAddress then { state with child := field.apply state.child }
  else { state with loader := field.apply state.loader }

def answer (question : SystemTable.Call) (state : ScriptedTable) :
    SystemTable.Reply question × ScriptedTable :=
  match question with
  | .locateProtocol protocol =>
      let presence := (state.script.shim.map ShimScript.presence).getD .missing
      (presence.found shimAddress, state.log (.located protocol))
  | .handleProtocol handle protocol =>
      (handleProtocol state.script handle protocol, state.log (.handled handle protocol))
  | .getVariable name vendor size =>
      (getVariable state.script name size,
        state.log (.gotVariable (Utf16.untilNul name) vendor size))
  | .allocatePool kind size => state.allocatePool kind size
  | .freePool address =>
      let (status, arena) := state.arena.free .pool address
      (status, { state with arena }.log (.freedPool address status))
  | .allocatePages strategy kind pages => state.allocatePages strategy kind pages
  | .freePages address pages =>
      let (status, arena) := state.arena.free .pages address
      (status, { state with arena }.log (.freedPages address pages status))
  | .loadImage bootPolicy parent path image => state.loadImage bootPolicy parent path image
  | .startImage image => state.startImage image
  | .unloadImage image => (state.script.unloadStatus, state.log (.unloadedImage image))
  | .callEntry _ handle table _ =>
      (state.script.entryStatus,
        state.log (.entered handle (table == tableAddress) state.loader))
  | .openVolume _ =>
      let status := state.script.openVolumeStatus
      (⟨status, rootAddress⟩, state.log (.openedVolume status))
  | .openFile directory name mode attributes => state.openFile directory name mode attributes
  | .closeFile file =>
      ((), { state with openFiles := state.openFiles.erase file }.log
        (.closed (file == rootAddress)))
  | .setPosition file position => state.setPosition file position
  | .getPosition file => state.getPosition file
  | .readFile file wanted => state.readFile file wanted
  | .shimVerify _ image => (shimVerdict state.script, state.log (.shimVerified image))
  | .shimContext _ image => (shimContext state.script, state.log (.shimContext image))
  | .fetchRecord address => (state.recordAt address, state)
  | .storeField address field => ((), state.store address field)
  | .memory address => (state.memory address, state)

def machine : Machine systemTable ScriptedTable := ⟨answer⟩

end ScriptedTable

end EfiHandoff.Simulation
