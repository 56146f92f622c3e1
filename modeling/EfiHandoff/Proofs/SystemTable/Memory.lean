import EfiHandoff.Proofs.Handoff.Holdings
import EfiHandoff.Proofs.Handoff.SecureBoot
import EfiHandoff.Proofs.Program.Interpretation
import EfiHandoff.Proofs.SystemTable.Records

/-!
# Memory behind the system table

The calls that take and give back memory when the questions of the loader are answered by a system table. The exit
data of a started image are memory too, and they are freed by the answer that brings them.
-/

set_option autoImplicit false

namespace EfiHandoff

/-- What the calls of a system table do to the memory the loader has to free. A pool buffer at address zero is none. -/
def SystemTable.allocations : Account systemTable Allocation where
  effect
    | ⟨.allocatePool _ _, (status, grant)⟩ =>
        if status.isSuccess ∧ grant.address ≠ 0 then .acquire (.pool grant.address) else .idle
    | ⟨.freePool address, _⟩ => .release (.pool address)
    | ⟨.allocatePages _ _ pages, (status, grant)⟩ =>
        if status.isSuccess then .acquire (.pages grant.address pages) else .idle
    | ⟨.freePages address pages, _⟩ => .release (.pages address pages)
    | ⟨.startImage _, reply⟩ =>
        if reply.exitData = 0 then .idle else .acquire (.pool reply.exitData)
    | _ => .idle

def Platform.Call.MovesMemory : Platform.Call → Prop
  | .allocatePool _ _ | .freePool _ | .allocatePages _ _ | .freePages _ _ | .startImage _ => True
  | _ => False

section Effects

variable {services : Services} {volume : Option Volume} {history : History systemTable}
  {start finish : List Allocation}

theorem SystemTable.Call.LooksUp.idle {exchange : Exchange systemTable}
    (looksUp : SystemTable.Call.LooksUp exchange.call) :
    SystemTable.allocations.effect exchange = .idle := by
  obtain ⟨call, reply⟩ := exchange
  cases call <;> first | exact looksUp.elim | rfl

private theorem recordWrite_idle {image : Handle} {found : Found} {fields : List FieldWrite} :
    ∀ exchange ∈ recordWrite image found fields, SystemTable.allocations.effect exchange = .idle := by
  refine List.forall_mem_cons.mpr ⟨rfl, ?_⟩
  cases found.address? with
  | none => exact List.forall_mem_nil _
  | some address => exact List.forall_mem_map.mpr fun _ _ => rfl

private theorem Services.allocatePool_held {kind : MemoryKind} {size : Nat} {reply : Except Status Grant}
    (follows : (Services.allocatePool kind size).Follows history reply) :
    SystemTable.allocations.held start history =
      (Platform.allocations.effect ⟨.allocatePool kind size, reply⟩).apply start := by
  obtain ⟨⟨status, grant⟩, later, rfl, answered⟩ := Program.follows_ask.mp follows
  dsimp only at answered
  by_cases success : status.isSuccess
  · rw [if_pos success] at answered
    obtain ⟨rfl, rfl⟩ := Program.follows_pure.mp answered
    rw [Account.held_singleton]
    by_cases null : grant.address = 0
    · rw [if_pos null]
      exact congrArg (Effect.apply start) (if_neg fun granted => granted.2 null)
    · rw [if_neg null]
      exact congrArg (Effect.apply start) (if_pos ⟨success, null⟩)
  · rw [if_neg success] at answered
    obtain ⟨rfl, rfl⟩ := Program.follows_pure.mp answered
    rw [Account.held_singleton]
    exact congrArg (Effect.apply start) (if_neg fun granted => success granted.1)

private theorem Services.allocatePages_held {kind : MemoryKind} {pages : Nat} {reply : Except Status Grant}
    (follows : (Services.allocatePages kind pages).Follows history reply) :
    SystemTable.allocations.held start history =
      (Platform.allocations.effect ⟨.allocatePages kind pages, reply⟩).apply start := by
  obtain ⟨⟨status, grant⟩, later, rfl, rfl, rfl⟩ := Program.follows_ask.mp follows
  rw [Account.held_singleton]
  unfold Status.toExcept
  by_cases success : status.isSuccess
  · rw [if_pos success]
    exact congrArg (Effect.apply start) (if_pos success)
  · rw [if_neg success]
    exact congrArg (Effect.apply start) (if_neg success)

/-- How an image is started: exit data are copied and freed, where the image left any. -/
inductive Services.ImageStarted (image : Handle) : History systemTable → ImageExit → Prop where
  | dataless {reply : StartReply} (null : reply.exitData = 0) :
      ImageStarted image [⟨.startImage image, reply⟩] ⟨reply.status, none⟩
  | copied {reply : StartReply} {contents : Nat → UInt8} {freed : Status} (left : reply.exitData ≠ 0) :
      ImageStarted image [⟨.startImage image, reply⟩, ⟨.memory reply.exitData, contents⟩,
          ⟨.freePool reply.exitData, freed⟩]
        ⟨reply.status, some (unitsAt contents (reply.exitSize / 2))⟩

theorem Services.startImage_follows {image : Handle} {ending : ImageExit}
    (follows : (Services.startImage image).Follows history ending) : ImageStarted image history ending := by
  obtain ⟨reply, later, rfl, copying⟩ := Program.follows_ask.mp follows
  by_cases null : reply.exitData = 0
  · rw [if_pos null] at copying
    obtain ⟨rfl, rfl⟩ := Program.follows_pure.mp copying
    exact .dataless null
  · rw [if_neg null] at copying
    obtain ⟨contents, second, rfl, freeing⟩ := Program.follows_ask.mp copying
    obtain ⟨freed, last, rfl, rfl, rfl⟩ := Program.follows_ask.mp freeing
    exact .copied null

/-- Exit data are freed as soon as they are copied, however the image ended. -/
theorem Services.startImage_held {image : Handle} {ending : ImageExit}
    (follows : (Services.startImage image).Follows history ending) :
    SystemTable.allocations.held start history = some start := by
  cases startImage_follows follows with
  | dataless null =>
      rw [Account.held_singleton]
      exact congrArg (Effect.apply start) (if_pos null)
  | @copied reply contents freed left =>
      have moves : SystemTable.allocations.Moves [] [⟨.startImage image, reply⟩,
          ⟨.memory reply.exitData, contents⟩, ⟨.freePool reply.exitData, freed⟩] [] := by
        refine .acquire (if_neg left) (.idle rfl (.release rfl ?_ List.mem_cons_self))
        rw [List.erase_cons_head]
        exact .nil
      exact moves start

private theorem Platform.allocations_idle {question : Platform.Call} (other : ¬ question.MovesMemory)
    (reply : Platform.Reply question) : Platform.allocations.effect ⟨question, reply⟩ = .idle := by
  cases question with
  | openFile path => cases reply <;> rfl
  | loadImage path image => cases reply <;> rfl
  | allocatePool | freePool | allocatePages | freePages | startImage => exact absurd trivial other
  | _ => rfl

theorem Services.answer_idle {question : Platform.Call} {reply : Platform.Reply question}
    (other : ¬ question.MovesMemory) (follows : (services.answer volume question).Follows history reply) :
    ∀ exchange ∈ history, SystemTable.allocations.effect exchange = .idle := by
  cases question with
  | allocatePool | freePool | allocatePages | freePages | startImage => exact absurd trivial other
  | loadImage path image =>
      obtain ⟨loaded, later, rfl, rfl, -⟩ := Program.follows_ask.mp follows
      exact List.forall_mem_singleton.mpr rfl
  | configureImage image device options =>
      obtain ⟨found, rfl⟩ := configureImage_follows follows
      exact recordWrite_idle
  | unloadImage image =>
      cases Program.follows_call.mp follows
      exact List.forall_mem_singleton.mpr rfl
  | callEntry entry image =>
      cases Program.follows_call.mp follows
      exact List.forall_mem_singleton.mpr rfl
  | install record | restore record =>
      obtain ⟨found, rfl⟩ := install_follows follows
      exact recordWrite_idle
  | _ =>
      intro exchange member
      exact ((services.answer_looksUp volume (by trivial)).history follows exchange member).idle

/-- Each answer takes and gives back the memory that the loader takes and gives back by asking. -/
theorem Services.realizes_allocations (services : Services) (volume : Option Volume) :
    SystemTable.allocations.Realizes (services.answer volume) Platform.allocations := by
  intro question reply history start follows
  by_cases moves : question.MovesMemory
  · cases question with
    | allocatePool kind size => exact allocatePool_held follows
    | allocatePages kind pages => exact allocatePages_held follows
    | freePool address =>
        cases Program.follows_call.mp follows
        exact Account.held_singleton _
    | freePages address pages =>
        cases Program.follows_call.mp follows
        exact Account.held_singleton _
    | startImage image => exact startImage_held follows
    | _ => exact moves.elim
  · rw [Account.held_idle (answer_idle moves follows)]
    exact (congrArg (Effect.apply start) (Platform.allocations_idle moves reply)).symm

theorem Services.perform_balances {α : Type} {program : Program platform α} {result : α}
    (moves : ∀ above, program.Follows above result → Platform.allocations.Moves [] above [])
    (follows : (services.perform volume program).Follows history result) :
    SystemTable.allocations.Balances history :=
  ((services.realizes_allocations volume).moves moves follows).balances

end Effects

section Exit

open Simulation

/-- Secure boot is off, and every file is an image that ends badly and leaves exit data. -/
def exitScript : TableScript where
  devicePath := [0x7f, 0xff, 4, 0]
  anyFile := some #[1, 2, 3, 4]
  exit := { status := .loadError, data := some #[0x41, 0, 0x42, 0] }

def exitStart : ScriptedTable where
  script := exitScript
  arena := Arena.empty 0
  loader := loaderRecord 7

def exitSession : SystemTable.Act Outcome :=
  ledgerServices.perform ledgerVolume (session none {} [['/', 'a']] .boot)

def exitHistory : History systemTable := exitSession.history ScriptedTable.machine exitStart

def exitData? : Exchange systemTable → Option UInt64
  | ⟨.startImage _, reply⟩ => some reply.exitData
  | _ => none

end Exit

/-- Nothing leaks and nothing is freed twice: every session, and every image that is loaded and dropped, gives back
what it acquires, whatever it is told; and so do the calls of a system table that answer them, exit data included. -/
theorem session_gives_back :
    (∀ limit settings arguments finish history outcome,
      (session limit settings arguments finish).Follows history outcome → GivesBack history) ∧
    (∀ file layout history verdict,
      (Image.loadAndDrop file layout).Follows history verdict → GivesBack history) ∧
    (∀ (services : Services) volume limit settings arguments finish history outcome,
      (services.perform volume (session limit settings arguments finish)).Follows history outcome →
        SystemTable.allocations.Balances history) ∧
    ∀ (services : Services) volume file layout history verdict,
      (services.perform volume (Image.loadAndDrop file layout).run).Follows history verdict →
        SystemTable.allocations.Balances history := by
  refine ⟨?_, ?_, ?_, ?_⟩
  · intro limit settings arguments finish history outcome follows
    exact (session_follows follows).unwinds.givesBack
  · intro file layout history verdict follows
    exact (Image.loadAndDrop_unwinds follows).givesBack
  · intro services volume limit settings arguments finish history outcome follows
    refine Services.perform_balances ?_ follows
    exact fun above asked => (session_follows asked).unwinds.moves_allocations
  · intro services volume file layout history verdict follows
    refine Services.perform_balances ?_ follows
    exact fun above asked => (Image.loadAndDrop_unwinds asked).moves_allocations


/-- The session whose image leaves exit data gives back the pages of the file and those data, which lie in the pool. -/
theorem session_gives_back_exitData :
    exitHistory.filterMap exitData? = [0x1000010000] ∧
      SystemTable.allocations.Balances exitHistory ∧ GivesBack strictHistory ∧
      GivesBack ((Image.loadAndDrop #[1, 2, 3, 4] flatLayout).run.history Simulation.InMemory.machine
        strictPlatform) ∧
      SystemTable.allocations.Balances
        ((ledgerServices.perform ledgerVolume (Image.loadAndDrop #[1, 2, 3, 4] flatLayout).run).history
          Simulation.ScriptedTable.machine exitStart) := by
  obtain ⟨sessions, loads, performed, performedLoads⟩ := session_gives_back
  refine ⟨by decide +kernel, ?_, ?_, ?_, ?_⟩
  · exact performed _ _ _ _ _ _ _ _ (Program.follows_history _ _ _)
  · exact sessions _ _ _ _ _ _ (Program.follows_history _ _ _)
  · exact loads _ _ _ _ (Program.follows_history _ _ _)
  · exact performedLoads _ _ _ _ _ _ (Program.follows_history _ _ _)

end EfiHandoff
