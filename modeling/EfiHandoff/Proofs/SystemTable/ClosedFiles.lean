import EfiHandoff.Proofs.SystemTable.Memory
import EfiHandoff.Proofs.SystemTable.OpenFiles

/-!
# Closing files

A preparation opens one file and reads it. Behind the system table that is a directory and a file, of which whatever
was opened is closed when the preparation is over, however it went.
-/

set_option autoImplicit false

namespace EfiHandoff

open SystemTable

def Platform.files : Custody platform UInt64 where
  account := {
    effect
      | ⟨.openFile _, .ok file⟩ => .acquire file.handle
      | ⟨.closeFile file, _⟩ => .release file.handle
      | _ => .idle }
  worksOn
    | .readFile file _ | .closeFile file => some file.handle
    | _ => none

section Platform

open Platform

variable {limit : MemoryLimit} {settings : Settings} {history : History platform} {held : List UInt64}

private theorem Platform.files_idle {question : Platform.Call} (other : ¬ question.Files)
    (reply : Platform.Reply question) :
    Platform.files.account.effect ⟨question, reply⟩ = .idle ∧ Platform.files.worksOn question = none := by
  cases question with
  | openFile | readFile | closeFile => exact absurd trivial other
  | _ => exact ⟨rfl, rfl⟩

theorem Platform.files_kept (other : ∀ exchange ∈ history, ¬ Call.Files exchange.call) :
    Platform.files.Kept held history held :=
  .idle fun exchange member => files_idle (other exchange member) exchange.reply

theorem PageReading.kept {file : OpenFile} {size : Nat} {verdict : Except BootError PageRange}
    (reading : PageReading file size history verdict) (member : file.handle ∈ held) :
    Platform.files.Kept held history held := by
  cases reading with
  | ungranted => exact .step nofun rfl .nil
  | atZero => exact .step nofun rfl (.step nofun rfl .nil)
  | unread => exact .step nofun rfl (.on rfl member rfl (.step nofun rfl .nil))
  | filled => exact .step nofun rfl (.on rfl member rfl .nil)

theorem Fetching.kept {name : List Char} {verdict : Except BootError (Handle × Bytes × PageRange)}
    (fetching : Fetching limit name history verdict) : Platform.files.Kept held history held := by
  cases fetching with
  | unopened => exact .step nofun rfl .nil
  | unplaced => exact .step nofun rfl (.step nofun rfl (.releases rfl rfl .nil))
  | unfilled reading | fetched _ reading =>
      exact .step nofun rfl (.step nofun rfl ((reading.kept List.mem_cons_self).append (.releases rfl rfl .nil)))

def Platform.openingError? : Exchange platform → Option FileError
  | ⟨.openFile _, .error error⟩ => some error
  | _ => none

/-- A file that cannot be opened is not asked about any further. -/
theorem Fetching.failed {name : List Char} {verdict : Except BootError (Handle × Bytes × PageRange)}
    (fetching : Fetching limit name history verdict) {exchange : Exchange platform} (member : exchange ∈ history)
    {error : FileError} (failed : openingError? exchange = some error) : verdict = .error error.bootError := by
  have unfailing {file : OpenFile} {size : Nat} {verdict : Except BootError PageRange} {reading : History platform}
      (read : PageReading file size reading verdict) : ∀ exchange ∈ reading, openingError? exchange = none := by
    cases read <;> simp [openingError?]
  cases fetching with
  | unopened =>
      cases List.mem_singleton.mp member
      cases failed
      rfl
  | unplaced =>
      simp only [List.mem_cons, List.not_mem_nil, or_false] at member
      rcases member with rfl | rfl | rfl <;> cases failed
  | unfilled reading | fetched _ reading =>
      simp only [List.mem_cons, List.mem_append, List.not_mem_nil, or_false] at member
      rcases member with rfl | rfl | read | rfl
      · cases failed
      · cases failed
      · rw [unfailing reading exchange read] at failed
        cases failed
      · cases failed

private theorem Gate.unfiled {path : Bytes} {image : Buffer} {verdict : Except BootError Route}
    (gate : Gate settings path image history verdict) : ∀ exchange ∈ history, ¬ Call.Files exchange.call := by
  cases gate <;> simp [Call.Files]

private theorem Pending.Released.unfiled {pending : Pending} (released : pending.Released history) :
    ∀ exchange ∈ history, ¬ Call.Files exchange.call := by
  cases released <;> simp [Call.Files]

/-- A preparation fetches a file, and is not about files after that. -/
theorem Preparation.fetching {arguments : List (List Char)} {verdict : Except BootError Pending}
    (preparation : Preparation limit settings arguments history verdict) :
    history = [] ∨ ∃ name first fetched later, history = first ++ later ∧ Fetching limit name first fetched ∧
      (∀ error, fetched = .error error → verdict = .error error) ∧
      ∀ exchange ∈ later, ¬ Call.Files exchange.call := by
  cases preparation with
  | nameless => exact .inl rfl
  | unencoded => exact .inl rfl
  | unread failed =>
      refine .inr ⟨_, _, _, [], (List.append_nil _).symm, fetch_follows failed, ?_, List.forall_mem_nil _⟩
      intro error same
      cases same
      rfl
  | unselected fetched =>
      exact .inr ⟨_, _, _, _, rfl, fetch_follows fetched, nofun, by simp [Call.Files]⟩
  | stopped fetched _ gate =>
      refine .inr ⟨_, _, _, _, rfl, fetch_follows fetched, nofun, ?_⟩
      exact List.forall_mem_append.mpr ⟨gate.unfiled, by simp [Call.Files]⟩
  | unconfigured fetched _ _ gate released =>
      refine .inr ⟨_, _, _, _, rfl, fetch_follows fetched, nofun, ?_⟩
      exact List.forall_mem_append.mpr ⟨gate.unfiled, List.forall_mem_cons.mpr ⟨id, released.unfiled⟩⟩
  | firmware fetched _ _ gate =>
      refine .inr ⟨_, _, _, _, rfl, fetch_follows fetched, nofun, ?_⟩
      exact List.forall_mem_append.mpr ⟨gate.unfiled, by simp [Call.Files]⟩
  | validated fetched _ _ gate =>
      exact .inr ⟨_, _, _, _, rfl, fetch_follows fetched, nofun, gate.unfiled⟩

variable {arguments : List (List Char)} {verdict : Except BootError Pending}

theorem Preparation.kept (preparation : Preparation limit settings arguments history verdict) :
    Platform.files.Kept held history held := by
  obtain rfl | ⟨name, first, fetched, later, rfl, fetching, -, other⟩ := preparation.fetching
  · exact .nil
  · exact fetching.kept.append (files_kept other)

theorem Preparation.failed (preparation : Preparation limit settings arguments history verdict)
    {exchange : Exchange platform} (member : exchange ∈ history) {error : FileError}
    (failed : openingError? exchange = some error) : verdict = .error error.bootError := by
  obtain rfl | ⟨name, first, fetched, later, rfl, fetching, fails, other⟩ := preparation.fetching
  · cases member
  · rcases List.mem_append.mp member with early | late
    · exact fails _ (fetching.failed early failed)
    · obtain ⟨question, reply⟩ := exchange
      cases question with
      | openFile => exact absurd trivial (other _ late)
      | _ => cases failed

end Platform

section Answers

variable {services : Services} {volume : Option Volume} {history : History systemTable} {held : List UInt64}

def SystemTable.Call.Files : SystemTable.Call → Prop
  | .openVolume _ | .openFile _ _ _ _ | .closeFile _ | .setPosition _ _ | .getPosition _ | .readFile _ _ => True
  | _ => False

private theorem SystemTable.Call.Inquires.unfiled {call : SystemTable.Call} (inquires : call.Inquires) :
    ¬ call.Files := by
  cases call <;> first | exact inquires.elim | exact id

private theorem recordWrite_unfiled {image : Handle} {found : Found} {fields : List FieldWrite} :
    ∀ exchange ∈ recordWrite image found fields, ¬ SystemTable.Call.Files exchange.call := by
  refine List.forall_mem_cons.mpr ⟨id, ?_⟩
  cases found.address? with
  | none => exact List.forall_mem_nil _
  | some address => exact List.forall_mem_map.mpr fun _ _ => id

theorem Services.answer_unfiled {question : Platform.Call} {reply : Platform.Reply question}
    (other : ¬ question.Files) (follows : (services.answer volume question).Follows history reply) :
    ∀ exchange ∈ history, ¬ SystemTable.Call.Files exchange.call := by
  have confined {α : Type} {program : Act α} {result : α} (follows : program.Follows history result)
      (unfiled : program.Confined fun call => ¬ SystemTable.Call.Files call) := unfiled.history follows
  cases question with
  | openFile | readFile | closeFile => exact absurd trivial other
  | allocatePool kind size => exact confined follows (allocatePool_confined id)
  | startImage image => exact confined follows (startImage_confined id (fun _ => id) fun _ => id)
  | freePool | allocatePages | freePages | loadImage | unloadImage | callEntry =>
      exact confined follows ⟨id, fun _ => trivial⟩
  | configureImage image device options =>
      obtain ⟨found, rfl⟩ := configureImage_follows follows
      exact recordWrite_unfiled
  | install record | restore record =>
      obtain ⟨found, rfl⟩ := install_follows follows
      exact recordWrite_unfiled
  | _ =>
      intro exchange member
      exact ((services.answer_inquires volume (by trivial) other).history follows exchange member).unfiled

theorem SystemTable.files_kept (other : ∀ exchange ∈ history, ¬ SystemTable.Call.Files exchange.call) :
    SystemTable.files.Kept held history held := by
  refine .idle fun exchange member => ?_
  have unfiled := other exchange member
  obtain ⟨call, reply⟩ := exchange
  cases call <;> first | exact absurd trivial unfiled | exact ⟨rfl, rfl⟩

theorem Volume.Reading.kept {file : UInt64} {length : Nat} {done : Buffer} {delivery : Delivery}
    (reading : Reading file length done history delivery) (member : file ∈ held) :
    SystemTable.files.Kept held history held := by
  induction reading with
  | full => exact .nil
  | failed | ended => exact .on rfl member rfl .nil
  | more _ _ _ ih => exact .on rfl member rfl ih

/-- Each answer keeps the files that the loader keeps by asking. -/
theorem Services.realizes_files (services : Services) (volume : Option Volume) :
    SystemTable.files.Realizes (services.answer volume) Platform.files := by
  intro question reply history held next follows holds applied
  by_cases files : question.Files
  · cases question with
    | openFile path =>
        have opened : Volume.openedWith held reply = next := by
          cases reply <;> exact Option.some.inj applied
        subst opened
        cases volume with
        | none =>
            obtain ⟨rfl, rfl⟩ := Program.follows_pure.mp follows
            exact .nil
        | some volume => exact (Volume.openPath_follows follows).kept
    | readFile file length =>
        cases applied
        exact (Volume.readRest_follows.mp follows).kept (holds _ rfl)
    | closeFile file =>
        cases Program.follows_call.mp follows
        exact .on rfl (holds _ rfl) applied .nil
    | _ => exact files.elim
  · rw [(Platform.files_idle files reply).1] at applied
    cases applied
    exact files_kept (answer_unfiled files follows)

theorem Volume.Fails.files {exchange : Exchange systemTable} {error : FileError} (fails : Volume.Fails exchange error) :
    SystemTable.Call.Files exchange.call := by
  cases fails <;> trivial

private theorem Volume.Reading.unfailing {file : UInt64} {length : Nat} {done : Buffer} {delivery : Delivery}
    (reading : Reading file length done history delivery) {exchange : Exchange systemTable}
    (member : exchange ∈ history) {error : FileError} : ¬ Volume.Fails exchange error := by
  induction reading with
  | full => cases member
  | failed | ended =>
      cases List.mem_singleton.mp member
      nofun
  | more _ _ _ ih =>
      rcases List.mem_cons.mp member with rfl | later
      · nofun
      · exact ih later

/-- A call that fails while a file is opened makes the opening fail. -/
theorem Services.answer_failed {question : Platform.Call} {reply : Platform.Reply question}
    (follows : (services.answer volume question).Follows history reply) {exchange : Exchange systemTable}
    (member : exchange ∈ history) {error : FileError} (fails : Volume.Fails exchange error) :
    Platform.openingError? ⟨question, reply⟩ = some error := by
  by_cases files : question.Files
  · cases question with
    | openFile path =>
        cases volume with
        | none =>
            obtain ⟨rfl, -⟩ := Program.follows_pure.mp follows
            cases member
        | some volume =>
            obtain rfl := (Volume.openPath_follows follows).failed member fails
            rfl
    | readFile file length => exact absurd fails ((Volume.readRest_follows.mp follows).unfailing member)
    | closeFile file =>
        cases Program.follows_call.mp follows
        cases List.mem_singleton.mp member
        cases fails
    | _ => exact files.elim
  · exact absurd fails.files (answer_unfiled files follows exchange member)

end Answers

section Rewinding

open Simulation

/-- Every file can be measured, but there is no way back to its start. -/
def rewindScript : TableScript where
  devicePath := [0x7f, 0xff, 4, 0]
  anyFile := some #[1, 2, 3, 4]
  rewindStatus := ⟨4⟩

def rewindStart : ScriptedTable where
  script := rewindScript
  arena := Arena.empty 0
  loader := loaderRecord 7

def rewindVolume : Volume := ⟨7, ScriptedTable.fileSystemAddress⟩

def rewindPreparation : SystemTable.Act (Except BootError Pending) :=
  ledgerServices.perform (some rewindVolume) (prepare {} [['/', 'a']] none).run

def closed? : Exchange systemTable → Option UInt64
  | ⟨.closeFile file, _⟩ => some file
  | _ => none

end Rewinding

/-- Whatever the calls for files return, opening a file leaves nothing open but the file, and a preparation leaves
nothing open at all: each directory and each file that was opened is closed once, no other is, and none is used but
while it is open. A call that fails is the error of the opening and of the preparation. -/
theorem prepare_closes_files :
    (∀ (volume : Volume) path history result, (volume.openPath path).Follows history result →
      volume.Opens path history result) ∧
    ∀ (services : Services) volume limit settings arguments history verdict,
      (services.perform volume (prepare settings arguments limit).run).Follows history verdict →
        SystemTable.files.Settles history ∧
        ∀ exchange ∈ history, ∀ error, Volume.Fails exchange error → verdict = .error error.bootError := by
  refine ⟨fun volume path history result follows => (Volume.openPath_follows follows).opens, ?_⟩
  intro services volume limit settings arguments history verdict follows
  obtain ⟨above, asked, answered⟩ := Program.follows_interpret follows
  have preparation := prepare_follows asked
  refine ⟨?_, ?_⟩
  · exact Custody.settles_of_kept fun held => (services.realizes_files volume).kept answered preparation.kept
  · intro exchange member error fails
    obtain ⟨question, found, stretch, given, within⟩ := answered.mem member
    exact preparation.failed found (Services.answer_failed given within fails)

/-- The directory and the file are closed, in this order, and the preparation fails with the status of the last seek.
Where nothing fails they are closed too. -/
theorem prepare_closes_files_rewound :
    (rewindPreparation.history Simulation.ScriptedTable.machine rewindStart).filterMap closed? =
        [Simulation.ScriptedTable.rootAddress, 0x2000] ∧
      SystemTable.files.Settles (rewindPreparation.history Simulation.ScriptedTable.machine rewindStart) ∧
      (rewindPreparation.run Simulation.ScriptedTable.machine rewindStart).result = .error (.deviceFailure ⟨4⟩) ∧
      rewindVolume.Opens ['/', 'a']
        ((rewindVolume.openPath ['/', 'a']).history Simulation.ScriptedTable.machine rewindStart)
        (.error (.device ⟨4⟩)) ∧
      SystemTable.files.Settles (rewindPreparation.history Simulation.ScriptedTable.machine exitStart) := by
  obtain ⟨opens, closes⟩ := prepare_closes_files
  have rewinds : (rewindPreparation.history Simulation.ScriptedTable.machine rewindStart)[5]? =
      some ⟨.setPosition 0x2000 0, Status.mk 4⟩ := by rfl
  obtain ⟨settles, failed⟩ := closes _ _ _ _ _ _ _ (Program.follows_history _ _ _)
  refine ⟨by decide +kernel, settles, failed _ (List.mem_of_getElem? rewinds) _ (.seek (by decide)), ?_, ?_⟩
  · exact opens _ _ _ _ (Program.follows_history _ _ _)
  · exact (closes _ _ _ _ _ _ _ (Program.follows_history _ _ _)).1

end EfiHandoff
