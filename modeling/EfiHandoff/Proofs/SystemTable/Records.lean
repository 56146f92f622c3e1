import EfiHandoff.Proofs.Handoff.ActiveRecord
import EfiHandoff.Proofs.SystemTable.Lookups
import EfiHandoff.Simulation.ScriptedTable
import Mathlib.Logic.Function.Basic

/-!
# Records behind the system table

Which fields of which loaded-image records are written when a question of the loader is answered by calls of the
system table, and what that means for the memory the records lie in.
-/

set_option autoImplicit false

namespace EfiHandoff

open SystemTable

def SystemTable.Call.Quiet : SystemTable.Call → Prop
  | .storeField _ _ | .callEntry _ _ _ _ => False
  | _ => True

section Quiet

def Platform.Call.Quiet (question : Platform.Call) : Prop :=
  ¬ question.AltersRecord ∧ ∀ image, ¬ question.Configures image

variable {history : History systemTable}

theorem SystemTable.Call.LooksUp.quiet {call : SystemTable.Call} (looksUp : call.LooksUp) : call.Quiet := by
  cases call <;> first | exact looksUp.elim | trivial

theorem Services.allocatePool_confined {allowed : SystemTable.Call → Prop} {kind : MemoryKind} {size : Nat}
    (asks : allowed (.allocatePool kind.number size)) : (Services.allocatePool kind size).Confined allowed := by
  refine ⟨asks, fun reply => ?_⟩
  change Program.Confined _ (if reply.1.isSuccess then _ else _)
  split <;> trivial

theorem Services.startImage_confined {allowed : SystemTable.Call → Prop} {image : Handle}
    (starts : allowed (.startImage image)) (looks : ∀ address, allowed (.memory address))
    (frees : ∀ address, allowed (.freePool address)) : (Services.startImage image).Confined allowed := by
  refine ⟨starts, fun reply => ?_⟩
  change Program.Confined _ (if reply.exitData = 0 then _ else _)
  split
  · trivial
  · exact ⟨looks _, fun _ => ⟨frees _, fun _ => trivial⟩⟩

/-- A question that does not alter the record of the running loader, nor sets fields of any other one, is answered
without a write to a record. -/
theorem Services.answer_quiet (services : Services) (volume : Option Volume) {question : Platform.Call}
    (quiet : question.Quiet) :
    (services.answer volume question).Confined SystemTable.Call.Quiet := by
  cases question with
  | install | restore | callEntry => exact absurd trivial quiet.1
  | configureImage image => exact absurd rfl (quiet.2 image)
  | allocatePool kind size => exact allocatePool_confined trivial
  | startImage image => exact startImage_confined trivial (fun _ => trivial) fun _ => trivial
  | freePool | allocatePages | freePages | loadImage | unloadImage =>
      exact ⟨trivial, fun _ => trivial⟩
  | _ => exact (services.answer_looksUp volume (by trivial)).mono fun _ looksUp => looksUp.quiet

end Quiet

def storing (address : UInt64) (fields : List FieldWrite) : History systemTable :=
  fields.map fun field => ⟨.storeField address field, ()⟩

/-- The history of writing fields of the record of an image, which has to be found first. -/
def recordWrite (image : Handle) (found : Found) (fields : List FieldWrite) : History systemTable :=
  ⟨.handleProtocol image .loadedImage, found⟩ :: match found.address? with
    | none => []
    | some address => storing address fields

def configuration (device : Handle) (options : Option (List UInt16)) : List FieldWrite :=
  [.device device, .options options,
    .optionsSize (UInt32.ofNat (2 * (options.getD []).length))]

/-- What may be written to records to answer a question: all six fields for the loader itself, three for an image
it has the firmware load, and nothing else. -/
def Services.Writes (services : Services) (history : History systemTable) : Platform.Call → Prop
  | .install record | .restore record =>
      ∃ found, history = recordWrite services.image found (fieldWrites record)
  | .configureImage image device options =>
      ∃ found, history = recordWrite image found (configuration device options)
  | _ => ∀ exchange ∈ history, ∀ address field, exchange.call ≠ .storeField address field

section Writes

variable {history : History systemTable} {services : Services} {volume : Option Volume}

theorem Services.storeFields_follows {address : UInt64} {fields : List FieldWrite} {result : Unit}
    (follows : (storeFields address fields).Follows history result) :
    history = storing address fields := by
  induction fields generalizing history with
  | nil => exact follows.1
  | cons field rest ih =>
      obtain ⟨⟨⟩, later, rfl, stored⟩ := Program.follows_ask.mp follows
      rw [ih stored]
      rfl

private theorem Services.follows_recordOf {α : Type} {image : Handle} {next : Option UInt64 → Act α} {result : α} :
    (recordOf image >>= next).Follows history result ↔
      ∃ found later, history = ⟨.handleProtocol image .loadedImage, found⟩ :: later ∧
        (next found.address?).Follows later result := Iff.rfl

private theorem recordWrite_missing {image : Handle} {found : Found} {fields : List FieldWrite}
    (missing : found.address? = none) :
    recordWrite image found fields = [⟨.handleProtocol image .loadedImage, found⟩] := by
  simp only [recordWrite, missing]

private theorem recordWrite_present {image : Handle} {found : Found} {fields : List FieldWrite}
    {address : UInt64} (present : found.address? = some address) :
    recordWrite image found fields =
      ⟨.handleProtocol image .loadedImage, found⟩ :: storing address fields := by
  simp only [recordWrite, present]

theorem Services.install_follows {record : ImageRecord} {result : Unit}
    (follows : (services.install record).Follows history result) :
    ∃ found, history = recordWrite services.image found (fieldWrites record) := by
  obtain ⟨found, later, rfl, wrote⟩ := follows_recordOf.mp follows
  refine ⟨found, ?_⟩
  cases place : Found.address? found with
  | none =>
      rw [place] at wrote
      obtain ⟨rfl, -⟩ := Program.follows_pure.mp wrote
      exact (recordWrite_missing place).symm
  | some address =>
      rw [place] at wrote
      rw [storeFields_follows wrote]
      exact (recordWrite_present place).symm

theorem Services.configureImage_follows {image device : Handle} {options : Option (List UInt16)}
    {result : Except Status Unit}
    (follows : (configureImage image device options).Follows history result) :
    ∃ found, history = recordWrite image found (configuration device options) := by
  obtain ⟨found, later, rfl, wrote⟩ := follows_recordOf.mp follows
  refine ⟨found, ?_⟩
  cases place : Found.address? found with
  | none =>
      rw [place] at wrote
      obtain ⟨rfl, -⟩ := Program.follows_pure.mp wrote
      exact (recordWrite_missing place).symm
  | some address =>
      rw [place] at wrote
      obtain ⟨⟨⟩, second, rfl, sited⟩ := Program.follows_ask.mp wrote
      obtain ⟨⟨⟩, third, rfl, given⟩ := Program.follows_ask.mp sited
      obtain ⟨⟨⟩, last, rfl, sized⟩ := Program.follows_ask.mp given
      obtain ⟨rfl, -⟩ := Program.follows_pure.mp sized
      rw [recordWrite_present place]
      rfl

theorem Services.answer_writes {question : Platform.Call} {reply : Platform.Reply question}
    (follows : (services.answer volume question).Follows history reply) :
    services.Writes history question := by
  cases question with
  | install record => exact install_follows follows
  | restore record => exact install_follows follows
  | configureImage image device options => exact configureImage_follows follows
  | callEntry entry image =>
      obtain rfl := Program.follows_call.mp follows
      intro exchange member address field
      cases List.mem_singleton.mp member
      intro same
      cases same
  | _ =>
      intro exchange member address field same
      have quiet := (services.answer_quiet volume ⟨id, fun _ => id⟩).history follows exchange member
      rw [same] at quiet
      exact quiet

end Writes

/-- What is asked of a system table whose memory holds the records of images. The record of the image `own`, the
running loader, is found at `home` whenever it is looked up, and an entry point may do what it likes to it. -/
structure RecordMemory {σ : Type} (machine : Machine systemTable σ) (own : Handle) (home : UInt64)
    (records : σ → UInt64 → ImageRecord) : Prop where
  found : ∀ state, (machine.answer (.handleProtocol own .loadedImage) state).1.address? = some home
  foreign : ∀ image state, image ≠ own →
    (machine.answer (.handleProtocol image .loadedImage) state).1.address? ≠ some home
  lookup : ∀ image state,
    records (machine.answer (.handleProtocol image .loadedImage) state).2 = records state
  fetch : ∀ address state, (machine.answer (.fetchRecord address) state).1 = records state address
  store : ∀ address field state, records (machine.answer (.storeField address field) state).2 =
    Function.update (records state) address (field.apply (records state address))
  fresh : ∀ bootPolicy parent path bytes state, ∀ status : Status, status.isSuccess →
    (machine.answer (.loadImage bootPolicy parent path bytes) state).1 ≠ (status, own)
  quiet : ∀ call state, call.Quiet → records (machine.answer call state).2 home = records state home

section Memory

variable {σ : Type} {machine : Machine systemTable σ} {own : Handle} {home : UInt64}
  {records : σ → UInt64 → ImageRecord} {services : Services} {volume : Option Volume} {state : σ}

private theorem fieldWrites_apply (record old : ImageRecord) :
    (Services.fieldWrites record).foldl FieldWrite.apply old = record := rfl

private theorem Services.run_recordOf {α : Type} {image : Handle} {next : Option UInt64 → Act α} :
    (Services.recordOf image >>= next).run machine state =
      (next (machine.answer (.handleProtocol image .loadedImage) state).1.address?).run machine
        (machine.answer (.handleProtocol image .loadedImage) state).2 := rfl

namespace RecordMemory

private theorem after_quiet (memory : RecordMemory machine own home records) {history : History systemTable}
    (quiet : ∀ exchange ∈ history, SystemTable.Call.Quiet exchange.call) :
    records (machine.after state history) home = records state home := by
  induction history generalizing state with
  | nil => rfl
  | cons exchange later ih =>
      obtain ⟨first, rest⟩ := List.forall_mem_cons.mp quiet
      rw [Machine.after_cons, ih rest]
      exact memory.quiet exchange.call state first

private theorem after_storing (memory : RecordMemory machine own home records) (address : UInt64)
    (fields : List FieldWrite) :
    records (machine.after state (storing address fields)) =
      Function.update (records state) address (fields.foldl FieldWrite.apply (records state address)) := by
  induction fields generalizing state with
  | nil => exact (Function.update_eq_self address (records state)).symm
  | cons field rest ih =>
      have stored := memory.store address field state
      change records (machine.after (machine.answer (.storeField address field) state).2
        (storing address rest)) = _
      rw [ih, stored, Function.update_self, Function.update_idem]
      rfl

private theorem after_recordWrite (memory : RecordMemory machine own home records) {image : Handle}
    {fields : List FieldWrite} {found : Found}
    (gives : machine.Gives state (recordWrite image found fields)) :
    found = (machine.answer (.handleProtocol image .loadedImage) state).1 ∧
      records (machine.after state (recordWrite image found fields)) = match found.address? with
        | none => records state
        | some address => Function.update (records state) address
            (fields.foldl FieldWrite.apply (records state address)) := by
  refine ⟨gives.1, ?_⟩
  have looked := memory.lookup image state
  cases place : found.address? with
  | none =>
      rw [recordWrite_missing place]
      exact looked
  | some address =>
      rw [recordWrite_present place, Machine.after_cons, memory.after_storing]
      change Function.update (records (machine.answer (.handleProtocol image .loadedImage) state).2) _ _ = _
      rw [looked]

private theorem run_install (memory : RecordMemory machine own home records) (same : services.image = own)
    (record : ImageRecord) :
    records ((services.install record).run machine state).state =
      Function.update (records state) home record := by
  subst same
  obtain ⟨found, wrote⟩ :=
    Services.install_follows (Program.follows_history machine (services.install record) state)
  have gives := Machine.gives_history machine (services.install record) state
  rw [wrote] at gives
  obtain ⟨rfl, written⟩ := memory.after_recordWrite gives
  rw [← Machine.after_history, wrote, written, memory.found]
  exact congrArg (Function.update (records state) home) (fieldWrites_apply record _)

private theorem run_configureImage (memory : RecordMemory machine own home records) (image device : Handle)
    (options : Option (List UInt16)) :
    records ((Services.configureImage image device options).run machine state).state =
      match (machine.answer (.handleProtocol image .loadedImage) state).1.address? with
      | none => records state
      | some address => Function.update (records state) address
          { records state address with
            device := device
            options := options
            optionsSize := UInt32.ofNat (2 * (options.getD []).length) } := by
  obtain ⟨found, wrote⟩ := Services.configureImage_follows
    (Program.follows_history machine (Services.configureImage image device options) state)
  have gives := Machine.gives_history machine (Services.configureImage image device options) state
  rw [wrote] at gives
  obtain ⟨rfl, written⟩ := memory.after_recordWrite gives
  rw [← Machine.after_history, wrote, written]
  rfl

private theorem run_quiet {α : Type} (memory : RecordMemory machine own home records) {program : Act α}
    (quiet : program.Confined SystemTable.Call.Quiet) :
    records (program.run machine state).state home = records state home := by
  rw [← Machine.after_history]
  exact memory.after_quiet (quiet.history (Program.follows_history machine program state))

private theorem run_snapshot (memory : RecordMemory machine own home records) (same : services.image = own) :
    (services.snapshot.run machine state).result = some (records state home) := by
  subst same
  unfold Services.snapshot
  rw [Services.run_recordOf, memory.found]
  change some (machine.answer (.fetchRecord home) _).1 = _
  rw [memory.fetch, memory.lookup]
  rfl

private theorem run_loadImage (memory : RecordMemory machine own home records) (path : Bytes) (image : Buffer) :
    ((services.loadImage path image).run machine state).result ≠ .ok own := by
  have fresh := memory.fresh false services.image path image state
  change (machine.answer (.loadImage false services.image path image) state).1.1.toExcept.map
    (fun _ => (machine.answer (.loadImage false services.image path image) state).1.2) ≠ .ok own
  generalize (machine.answer (.loadImage false services.image path image) state).1 = reply at fresh ⊢
  obtain ⟨status, handle⟩ := reply
  unfold Status.toExcept
  split
  · next success =>
      intro loaded
      cases loaded
      exact fresh status success rfl
  · intro loaded
    cases loaded

/-- A system table that holds records in memory keeps the record of the running loader, as the platform the loader
makes of it. -/
theorem keepsRecord (memory : RecordMemory machine own home records) (same : services.image = own)
    (volume : Option Volume) :
    KeepsRecord (machine.through (services.answer volume)) own
      fun state => some (records state home) where
  told state := memory.run_snapshot same
  installed given state _ := by
    change some (records ((services.install given).run machine state).state home) = _
    rw [memory.run_install same, Function.update_self]
  restored saved state _ := by
    change some (records ((services.install saved).run machine state).state home) = _
    rw [memory.run_install same, Function.update_self]
  entered _ _ _ _ := rfl
  fresh path image state := memory.run_loadImage path image
  other question state unaltering unconfiguring := by
    refine congrArg some ?_
    change records ((services.answer volume question).run machine state).state home = _
    cases question with
    | configureImage image device options =>
        change records ((Services.configureImage image device options).run machine state).state home = _
        rw [memory.run_configureImage]
        split
        · rfl
        · next address present =>
            have elsewhere : address ≠ home := by
              intro same
              subst same
              exact memory.foreign image state unconfiguring present
            rw [Function.update_of_ne elsewhere.symm]
    | _ => exact memory.run_quiet (services.answer_quiet volume ⟨unaltering, fun _ => id⟩)

/-- However a session goes, the record of the running loader holds afterwards what it held before. -/
theorem run_session (memory : RecordMemory machine own home records) (same : services.image = own)
    (limit : MemoryLimit) (settings : Settings) (arguments : List (List Char)) (finish : Finish) :
    records ((services.perform volume (session limit settings arguments finish)).run machine state).state home =
      records state home := by
  have kept := ((memory.keepsRecord same volume).session limit settings arguments finish state).kept
  have interpreted := (Program.run_interpret machine (services.answer volume)
    (session limit settings arguments finish) state).2
  exact (congrArg (fun after => records after home) interpreted).trans (Option.some.inj kept)

end RecordMemory

end Memory

section Ledger

open Simulation

/-- A scripted system table with a record at every address, whose images overwrite the record of their caller. -/
def ledger : Machine systemTable (ScriptedTable × (UInt64 → ImageRecord)) where
  answer question state :=
    match question with
    | .handleProtocol handle protocol =>
        (if handle = ScriptedTable.loaderHandle then ⟨.success, ScriptedTable.loaderAddress⟩
          else ScriptedTable.handleProtocol state.1.script handle protocol, state)
    | .fetchRecord address => (state.2 address, state)
    | .storeField address field =>
        ((), state.1, Function.update state.2 address (field.apply (state.2 address)))
    | .callEntry _ _ _ _ =>
        (.success, state.1,
          Function.update state.2 ScriptedTable.loaderAddress ⟨0, 0, none, 0, none, 0⟩)
    | question =>
        let answered := ScriptedTable.answer question state.1
        (answered.1, answered.2, state.2)

private theorem ledger_recordMemory :
    RecordMemory ledger ScriptedTable.loaderHandle ScriptedTable.loaderAddress Prod.snd where
  found state := rfl
  foreign image state other := by
    change (if image = ScriptedTable.loaderHandle then _ else _ : Found).address? ≠ _
    rw [if_neg other]
    unfold ScriptedTable.handleProtocol
    rw [if_pos rfl, if_neg other]
    split
    · cases state.1.script.childPresence <;>
        simp [Presence.found, Found.address?, ScriptedTable.childAddress, ScriptedTable.loaderAddress]
    · simp [Found.address?, Status.isSuccess, Status.unsupported]
  lookup image state := rfl
  fetch address state := rfl
  store address field state := rfl
  fresh bootPolicy parent path bytes state status success same := by
    have own : imageHandle = ScriptedTable.loaderHandle := congrArg Prod.snd same
    exact absurd own (by decide)
  quiet call state quiet := by
    cases call <;> first | exact quiet.elim | rfl

def ledgerContext : ShimContext where
  imageAddress := 0
  imageSize := 64
  entry := 0
  headersSize := 64
  sectionCount := 0
  firstSection := some 0
  relocations := none
  directoryCount := 0
  signature := some 0

def ledgerScript : TableScript where
  shim := some { context := some (.success, ledgerContext) }
  devicePath := [0x7f, 0xff, 4, 0]
  nonvolatile := [("SecureBoot", .ok #[1]), ("SetupMode", .ok #[0])]
  anyFile := some ((Array.replicate 64 0).set! 56 1)

def ledgerStart : ScriptedTable × (UInt64 → ImageRecord) :=
  ({ script := ledgerScript, arena := Arena.empty 0, loader := loaderRecord 7 }, fun _ => loaderRecord 7)

def ledgerServices : Services :=
  ⟨ScriptedTable.loaderHandle, ScriptedTable.tableAddress, some ScriptedTable.shimAddress⟩

def ledgerVolume : Option Volume := some ⟨7, ScriptedTable.fileSystemAddress⟩

def ledgerPlatform : Machine platform (ScriptedTable × (UInt64 → ImageRecord)) :=
  ledger.through (ledgerServices.answer ledgerVolume)

def ledgerSession : Platform.Act Outcome := session none {} [['/', 'a']] .boot

def ledgerHistory : History platform := ledgerSession.history ledgerPlatform ledgerStart

def ledgerRecord (state : ScriptedTable × (UInt64 → ImageRecord)) : Option ImageRecord :=
  some (state.2 ScriptedTable.loaderAddress)

def enteredAt : Exchange platform → Option UInt64
  | ⟨.callEntry entry _, _⟩ => some entry
  | _ => none

end Ledger

open Simulation

/-- What a system table with records in memory is left with. -/
structure RecordFrame {σ : Type} (machine : Machine systemTable σ) (home : UInt64)
    (records : σ → UInt64 → ImageRecord) (services : Services) (volume : Option Volume) (state : σ) :
    Prop where
  kept : ∀ limit settings arguments finish,
    records ((services.perform volume (session limit settings arguments finish)).run machine state).state home =
      records state home
  written : ∀ record,
    records ((services.answer volume (.install record)).run machine state).state =
        Function.update (records state) home record ∧
      records ((services.answer volume (.restore record)).run machine state).state =
        Function.update (records state) home record
  configured : ∀ image device options,
    records ((services.answer volume (.configureImage image device options)).run machine state).state =
      match (machine.answer (.handleProtocol image .loadedImage) state).1.address? with
      | none => records state
      | some address => Function.update (records state) address
          { records state address with
            device := device
            options := options
            optionsSize := UInt32.ofNat (2 * (options.getD []).length) }

/-- The record of the running loader survives every session: by the questions that are asked whatever the answers
are, on every platform that holds a record, and in the memory behind the system table. -/
theorem session_keeps_record :
    (∀ limit settings arguments finish history outcome,
      (session limit settings arguments finish).Follows history outcome → RecordUse history outcome) ∧
    (∀ (σ : Type) (machine : Machine platform σ) own record, KeepsRecord machine own record →
      ∀ limit settings arguments finish state,
        PreservesRecord machine record (session limit settings arguments finish) state) ∧
    (∀ (services : Services) volume question history reply,
      (services.answer volume question).Follows history reply → services.Writes history question) ∧
    ∀ (σ : Type) (machine : Machine systemTable σ) home records (services : Services),
      RecordMemory machine services.image home records →
        ∀ volume state, RecordFrame machine home records services volume state := by
  refine ⟨?_, ?_, ?_, ?_⟩
  · intro limit settings arguments finish history outcome follows
    exact (session_follows follows).recordUse
  · intro σ machine own record keeps limit settings arguments finish state
    exact keeps.session limit settings arguments finish state
  · intro services volume question history reply follows
    exact Services.answer_writes follows
  · intro σ machine home records services memory volume state
    refine ⟨fun limit settings arguments finish => memory.run_session rfl limit settings arguments finish, ?_, ?_⟩
    · exact fun record => ⟨memory.run_install rfl record, memory.run_install rfl record⟩
    · exact fun image device options => memory.run_configureImage image device options

/-- The session on the ledger enters the image, which overwrites the record, and the record is put back. -/
theorem session_keeps_record_ledger :
    ledgerHistory.filterMap enteredAt = [0x1000010000] ∧
      RecordUse ledgerHistory (ledgerSession.run ledgerPlatform ledgerStart).result ∧
      PreservesRecord ledgerPlatform ledgerRecord ledgerSession ledgerStart ∧
      (∃ saved, ⟨.restore saved, ()⟩ ∈ ledgerHistory.drop 14) ∧
      ledgerServices.Writes
        ((ledgerServices.answer ledgerVolume (.install (loaderRecord 9))).history ledger ledgerStart)
        (.install (loaderRecord 9)) ∧
      RecordFrame ledger ScriptedTable.loaderAddress Prod.snd ledgerServices ledgerVolume ledgerStart := by
  obtain ⟨use, keeps, writes, frame⟩ := session_keeps_record
  have preserved : PreservesRecord ledgerPlatform ledgerRecord ledgerSession ledgerStart :=
    keeps _ _ _ _ (ledger_recordMemory.keepsRecord rfl ledgerVolume) _ _ _ _ _
  refine ⟨by decide +kernel, use _ _ _ _ _ _ (Program.follows_history _ _ _), preserved, ?_,
    writes _ _ _ _ _ (Program.follows_history _ _ _), frame _ _ _ _ _ ledger_recordMemory _ _⟩
  exact (preserved.between (List.take_append_drop 14 ledgerHistory).symm (by decide +kernel)).2

end EfiHandoff
