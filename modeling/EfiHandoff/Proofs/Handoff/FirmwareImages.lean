import EfiHandoff.Proofs.Handoff.Holdings
import EfiHandoff.Simulation.InMemory

/-!
# Images the firmware loads

A session has the firmware load at most one image. From then on all that happens is the life of that image: it is
configured, perhaps started, and unloaded once, while the pages its file was read into are still held.
-/

set_option autoImplicit false

namespace EfiHandoff

open Platform

/-- What becomes of an image, from its loading to the end of the session. -/
inductive ImageLife (pending : Pending) (image : Handle) :
    Finish → History platform → Outcome → Prop where
  | unconfigured {finish : Finish} {status unloaded freed : Status} :
      ImageLife pending image finish
        [⟨.configureImage image pending.device pending.options, .error status⟩,
          ⟨.unloadImage image, unloaded⟩,
          ⟨.freePages pending.file.address pending.file.pages, freed⟩]
        (.refused .noImageRecord)
  | returned {ending : ImageExit} {unloaded freed : Status} :
      ImageLife pending image .boot
        [⟨.configureImage image pending.device pending.options, .ok ()⟩,
          ⟨.startImage image, ending⟩, ⟨.unloadImage image, unloaded⟩,
          ⟨.freePages pending.file.address pending.file.pages, freed⟩]
        (.booted pending
          (Pending.verdictOn ending.status (LoadOptions.exitText (ending.data.getD []))))
  | unbooted {finish : Finish} {unloaded freed : Status} (unbooted : finish ≠ .boot) :
      ImageLife pending image finish
        [⟨.configureImage image pending.device pending.options, .ok ()⟩,
          ⟨.unloadImage image, unloaded⟩,
          ⟨.freePages pending.file.address pending.file.pages, freed⟩]
        (.dropped pending)

namespace Platform

def ConcernsImage : Exchange platform → Prop
  | ⟨.loadImage _ _, .ok _⟩ | ⟨.startImage _, _⟩ | ⟨.unloadImage _, _⟩ => True
  | _ => False

def IsLoad : Exchange platform → Prop
  | ⟨.loadImage _ _, .ok _⟩ => True
  | _ => False

def IsUnload : Exchange platform → Prop
  | ⟨.unloadImage _, _⟩ => True
  | _ => False

def unloads (image : Handle) : Exchange platform → Bool
  | ⟨.unloadImage handle, _⟩ => handle == image
  | _ => false

def starts (image : Handle) : Exchange platform → Bool
  | ⟨.startImage handle, _⟩ => handle == image
  | _ => false

end Platform

inductive FirmwareUse (finish : Finish) : History platform → Outcome → Prop where
  | unused {history : History platform} {outcome : Outcome}
      (quiet : ∀ exchange ∈ history, ¬ ConcernsImage exchange) :
      FirmwareUse finish history outcome
  | loaded {before after : History platform} {outcome : Outcome} {pending : Pending}
      {image : Handle} (route : pending.route = .firmware image)
      (quiet : ∀ exchange ∈ before, ¬ ConcernsImage exchange)
      (acquired : Acquires [] before [pending.file.resource])
      (life : ImageLife pending image finish after outcome) :
      FirmwareUse finish (before ++ ⟨.loadImage pending.path pending.image, .ok image⟩ :: after)
        outcome

section Use

variable {limit : MemoryLimit} {settings : Settings} {history : History platform}

private theorem Platform.Call.ReadsFile.not_concerns {exchange : Exchange platform}
    (reads : Call.ReadsFile exchange.call) : ¬ ConcernsImage exchange := by
  obtain ⟨call, reply⟩ := exchange
  cases call <;> first | exact reads.elim | exact id

private theorem Platform.Call.Enters.not_concerns {exchange : Exchange platform}
    (enters : Call.Enters exchange.call) : ¬ ConcernsImage exchange := by
  obtain ⟨call, reply⟩ := exchange
  cases call <;> first | exact enters.elim | exact id

private theorem Fetching.unconcerned {name : List Char}
    {verdict : Except BootError (Handle × Bytes × PageRange)}
    (fetching : Fetching limit name history verdict) : ∀ exchange ∈ history, ¬ ConcernsImage exchange :=
  fun exchange member => (fetching.reads exchange member).not_concerns

private theorem Gate.unconcerned {path : Bytes} {image : Buffer} {verdict : Except BootError Route}
    (gate : Gate settings path image history verdict)
    (elsewhere : ∀ handle, verdict ≠ .ok (.firmware handle)) :
    ∀ exchange ∈ history, ¬ ConcernsImage exchange := by
  cases gate with
  | loaded => exact absurd rfl (elsewhere _)
  | _ => simp [ConcernsImage]

private theorem unconcerned_freePages {address : UInt64} {pages : Nat} {freed : Status} :
    ∀ exchange ∈ ([⟨.freePages address pages, freed⟩] : History platform),
      ¬ ConcernsImage exchange :=
  List.forall_mem_singleton.mpr id

private theorem FirmwareUse.ofGate {name : List Char} {finish : Finish} {outcome : Outcome}
    {pending : Pending} {image : Handle} {first second after : History platform}
    (fetched : (fetch limit settings name).Follows first
      (.ok (pending.device, pending.path, pending.file)))
    (route : pending.route = .firmware image)
    (gate : Gate settings pending.path pending.image second (.ok pending.route))
    (life : ImageLife pending image finish after outcome) :
    FirmwareUse finish (first ++ (second ++ after)) outcome := by
  have fetching := fetch_follows fetched
  rw [route] at gate
  cases gate with
  | @loaded mode =>
      have quiet : ∀ exchange ∈ first ++ [(⟨.secureBootMode, mode⟩ : Exchange platform)],
          ¬ ConcernsImage exchange :=
        List.forall_mem_append.mpr ⟨fetching.unconcerned, List.forall_mem_singleton.mpr id⟩
      have use := FirmwareUse.loaded route quiet (fetching.acquires.append (.idle rfl .nil)) life
      rwa [List.append_assoc] at use

theorem Session.firmwareUse {arguments : List (List Char)} {finish : Finish} {outcome : Outcome}
    (session : Session limit settings arguments finish history outcome) :
    FirmwareUse finish history outcome := by
  cases session with
  | refused prepared =>
      cases prepared with
      | nameless => exact .unused (List.forall_mem_nil _)
      | unencoded => exact .unused (List.forall_mem_nil _)
      | unread failed => exact .unused (fetch_follows failed).unconcerned
      | unselected fetched =>
          exact .unused (List.forall_mem_append.mpr
            ⟨(fetch_follows fetched).unconcerned, unconcerned_freePages⟩)
      | stopped fetched _ gate =>
          exact .unused (List.forall_mem_append.mpr ⟨(fetch_follows fetched).unconcerned,
            List.forall_mem_append.mpr ⟨gate.unconcerned nofun, unconcerned_freePages⟩⟩)
      | unconfigured fetched _ route gate released =>
          cases released with
          | firmware same =>
              cases route.symm.trans same
              exact .ofGate fetched route gate .unconfigured
          | validated same => cases route.symm.trans same
  | booted prepared started =>
      cases prepared with
      | firmware fetched _ route gate =>
          cases started with
          | firmware same =>
              cases route.symm.trans same
              simp only [List.append_assoc]
              exact .ofGate fetched route gate .returned
          | validated same => cases route.symm.trans same
      | validated fetched _ route gate =>
          cases started with
          | firmware same => cases route.symm.trans same
          | validated _ started =>
              rw [route] at gate
              refine .unused (List.forall_mem_append.mpr ⟨List.forall_mem_append.mpr
                ⟨(fetch_follows fetched).unconcerned, gate.unconcerned nofun⟩, ?_⟩)
              exact List.forall_mem_append.mpr
                ⟨fun exchange member => (started.enters exchange member).not_concerns,
                  unconcerned_freePages⟩
  | dropped prepared released unbooted =>
      cases prepared with
      | firmware fetched _ route gate =>
          cases released with
          | firmware same =>
              cases route.symm.trans same
              simp only [List.append_assoc]
              exact .ofGate fetched route gate (.unbooted unbooted)
          | validated same => cases route.symm.trans same
      | validated fetched _ route gate =>
          cases released with
          | firmware same => cases route.symm.trans same
          | validated =>
              rw [route] at gate
              exact .unused (List.forall_mem_append.mpr ⟨List.forall_mem_append.mpr
                ⟨(fetch_follows fetched).unconcerned, gate.unconcerned nofun⟩,
                unconcerned_freePages⟩)

end Use

structure UnloadsImages (finish : Finish) (history : History platform) (outcome : Outcome) : Prop where
  /-- When an image is loaded the pages of its file are held, and its life fills the rest of the session. -/
  life : ∀ {before after : History platform} {path : Bytes} {bytes : Buffer} {image : Handle},
    history = before ++ ⟨.loadImage path bytes, .ok image⟩ :: after →
      ∃ pending : Pending, pending.route = .firmware image ∧ pending.path = path ∧
        pending.image = bytes ∧ resources.held [] before = some [pending.file.resource] ∧
        ImageLife pending image finish after outcome
  once : ∀ {path : Bytes} {bytes : Buffer} {image : Handle},
    (⟨.loadImage path bytes, .ok image⟩ : Exchange platform) ∈ history →
      history.countP (unloads image) = 1 ∧ history.countP (starts image) ≤ 1
  /-- Right before an unloading the image and the pages are held; right after it the pages go, last of all. -/
  last : ∀ {before after : History platform} {image : Handle} {unloaded : Status},
    history = before ++ ⟨.unloadImage image, unloaded⟩ :: after →
      ∃ pages : PageRange, ∃ freed, resources.held [] before = some [.image image, pages.resource] ∧
        after = [⟨.freePages pages.address pages.pages, freed⟩]
  foreign : ∀ {image : Handle}, ∀ exchange ∈ history, unloads image exchange ∨ starts image exchange →
    ∃ path bytes, (⟨.loadImage path bytes, .ok image⟩ : Exchange platform) ∈ history

section Unloading

variable {finish : Finish} {history : History platform} {outcome : Outcome} {pending : Pending}
  {image : Handle}

private theorem Platform.IsLoad.concerns {exchange : Exchange platform} (load : IsLoad exchange) :
    ConcernsImage exchange := by
  obtain ⟨call, reply⟩ := exchange
  cases call with
  | loadImage => cases reply <;> first | exact load.elim | trivial
  | _ => exact load.elim

private theorem Platform.IsUnload.concerns {exchange : Exchange platform} (unload : IsUnload exchange) :
    ConcernsImage exchange := by
  obtain ⟨call, reply⟩ := exchange
  cases call <;> first | exact unload.elim | exact unload

private theorem Platform.not_concernsImage {exchange : Exchange platform} (quiet : ¬ ConcernsImage exchange)
    (image : Handle) : unloads image exchange = false ∧ starts image exchange = false := by
  obtain ⟨call, reply⟩ := exchange
  cases call <;> first | exact ⟨rfl, rfl⟩ | exact absurd trivial quiet

namespace ImageLife

theorem unloading (life : ImageLife pending image finish history outcome) :
    ∃ early unloaded freed, history = early ++ [⟨.unloadImage image, unloaded⟩,
        ⟨.freePages pending.file.address pending.file.pages, freed⟩] ∧
      (∀ exchange ∈ early, ¬ IsUnload exchange) ∧
      ∀ held, Acquires held early held := by
  cases life with
  | unconfigured =>
      exact ⟨[_], _, _, rfl, by simp [IsUnload], fun held => .idle rfl .nil⟩
  | returned =>
      exact ⟨[_, _], _, _, rfl, by simp [IsUnload], fun held => .idle rfl (.idle rfl .nil)⟩
  | unbooted =>
      exact ⟨[_], _, _, rfl, by simp [IsUnload], fun held => .idle rfl .nil⟩

private theorem not_load (life : ImageLife pending image finish history outcome) :
    ∀ exchange ∈ history, ¬ IsLoad exchange := by
  cases life <;> simp [IsLoad]

theorem count (life : ImageLife pending image finish history outcome) :
    history.countP (unloads image) = 1 ∧ history.countP (starts image) ≤ 1 := by
  cases life <;> simp [unloads, starts]

theorem own (life : ImageLife pending image finish history outcome) {other : Handle} :
    ∀ exchange ∈ history, unloads other exchange ∨ starts other exchange → image = other := by
  cases life <;> simp [unloads, starts]

end ImageLife

namespace FirmwareUse

private theorem life (use : FirmwareUse finish history outcome) {before after : History platform}
    {path : Bytes} {bytes : Buffer}
    (cut : history = before ++ ⟨.loadImage path bytes, .ok image⟩ :: after) :
    (∀ exchange ∈ before, ¬ ConcernsImage exchange) ∧
      ∃ pending : Pending, pending.route = .firmware image ∧ pending.path = path ∧
        pending.image = bytes ∧ Acquires [] before [pending.file.resource] ∧
        ImageLife pending image finish after outcome := by
  cases use with
  | unused quiet =>
      rw [cut] at quiet
      exact absurd trivial (quiet _ (List.mem_append_right _ List.mem_cons_self))
  | loaded route quiet acquired life =>
      have early : ∀ exchange ∈ _, ¬ IsLoad exchange :=
        fun exchange member load => quiet exchange member load.concerns
      obtain ⟨rfl, same, rfl⟩ := split_unique IsLoad cut trivial early life.not_load
      cases same
      exact ⟨quiet, _, route, rfl, rfl, acquired, life⟩

theorem once (use : FirmwareUse finish history outcome) {path : Bytes} {bytes : Buffer}
    (member : (⟨.loadImage path bytes, .ok image⟩ : Exchange platform) ∈ history) :
    history.countP (unloads image) = 1 ∧ history.countP (starts image) ≤ 1 := by
  obtain ⟨before, after, rfl⟩ := List.append_of_mem member
  obtain ⟨quiet, pending, -, -, -, -, life⟩ := use.life rfl
  have unloaded : before.countP (unloads image) = 0 := by
    refine List.countP_eq_zero.mpr fun exchange member => ?_
    simp [(not_concernsImage (quiet exchange member) image).1]
  have started : before.countP (starts image) = 0 := by
    refine List.countP_eq_zero.mpr fun exchange member => ?_
    simp [(not_concernsImage (quiet exchange member) image).2]
  simp only [List.countP_append, List.countP_cons, unloads, starts, unloaded, started]
  simpa using life.count

theorem last (use : FirmwareUse finish history outcome) {before after : History platform}
    {unloaded : Status} (cut : history = before ++ ⟨.unloadImage image, unloaded⟩ :: after) :
    ∃ pages : PageRange, ∃ freed, resources.held [] before = some [.image image, pages.resource] ∧
      after = [⟨.freePages pages.address pages.pages, freed⟩] := by
  cases use with
  | unused quiet =>
      rw [cut] at quiet
      exact absurd trivial (quiet _ (List.mem_append_right _ List.mem_cons_self))
  | @loaded first _ _ pending own route quiet acquired life =>
      obtain ⟨middle, _, freed, rfl, unended, acquires⟩ := life.unloading
      rw [List.append_cons, ← List.append_assoc] at cut
      have early : ∀ exchange ∈ first ++ [⟨.loadImage pending.path pending.image, .ok own⟩] ++ middle,
          ¬ IsUnload exchange := by
        refine List.forall_mem_append.mpr ⟨List.forall_mem_append.mpr ⟨?_, ?_⟩, unended⟩
        · exact fun exchange member unload => quiet exchange member unload.concerns
        · exact List.forall_mem_singleton.mpr id
      have held : Acquires [] (first ++ [⟨.loadImage pending.path pending.image, .ok own⟩] ++ middle)
          [.image own, pending.file.resource] :=
        (acquired.append (.acquire rfl .nil)).append (acquires _)
      obtain ⟨rfl, same, rfl⟩ := split_unique IsUnload cut trivial early (by simp [IsUnload])
      cases same
      exact ⟨pending.file, freed, held.moves [], rfl⟩

theorem foreign (use : FirmwareUse finish history outcome) :
    ∀ exchange ∈ history, unloads image exchange ∨ starts image exchange →
      ∃ path bytes, (⟨.loadImage path bytes, .ok image⟩ : Exchange platform) ∈ history := by
  intro exchange member uses
  have loud : ¬ ¬ ConcernsImage exchange := by
    intro quiet
    obtain ⟨unloading, starting⟩ := not_concernsImage quiet image
    simp [unloading, starting] at uses
  cases use with
  | unused quiet => exact absurd (quiet exchange member) loud
  | @loaded _ _ _ pending own route quiet acquired life =>
      rcases List.mem_append.mp member with early | late
      · exact absurd (quiet exchange early) loud
      rcases List.mem_cons.mp late with rfl | late
      · simp [unloads, starts] at uses
      · obtain rfl := life.own exchange late uses
        exact ⟨pending.path, pending.image, by simp⟩

theorem unloadsImages (use : FirmwareUse finish history outcome) :
    UnloadsImages finish history outcome where
  life cut := by
    obtain ⟨-, pending, route, path, bytes, acquired, life⟩ := use.life cut
    exact ⟨pending, route, path, bytes, acquired.moves [], life⟩
  once member := use.once member
  last cut := use.last cut
  foreign := use.foreign

end FirmwareUse

end Unloading

section Failing

open Simulation

def failingPlatform : InMemory where
  exit := ⟨.loadError, none⟩
  medium := { files := [("/a", #[1, 2, 3, 4])], root := some ⟨1, some [0x7f, 0xff, 4, 0]⟩ }

def failingSession : Act Outcome := session none {} [['/', 'a']] .boot

def failingHistory : History platform := failingSession.history InMemory.machine failingPlatform

end Failing

/-- An image that the firmware loads is unloaded exactly once before the session ends, and before the pages of its
file go; it is started at most once, never after that; and no other image is unloaded or started. -/
theorem session_unloads_images (limit : MemoryLimit) (settings : Settings) (arguments : List (List Char))
    (finish : Finish) (history : History platform) (outcome : Outcome)
    (follows : (session limit settings arguments finish).Follows history outcome) :
    UnloadsImages finish history outcome :=
  (session_follows follows).firmwareUse.unloadsImages

/-- An image that fails once it is started is unloaded all the same. -/
theorem session_unloads_images_failing :
    failingHistory.countP (starts Simulation.imageHandle) = 1 ∧
      failingHistory.countP (unloads Simulation.imageHandle) = 1 ∧
      UnloadsImages .boot failingHistory
        (failingSession.run Simulation.InMemory.machine failingPlatform).result :=
  ⟨by decide +kernel, by decide +kernel,
    session_unloads_images _ _ _ _ _ _ (Program.follows_history _ _ _)⟩

end EfiHandoff
