import EfiHandoff.Proofs.Handoff.StepOrder

/-!
# The first failure of a preparation

A preparation ends at the first of its steps that fails, whatever else is wrong: its error is that of this step, no
later step was begun, and all it did after that was to give back what it held.
-/

set_option autoImplicit false

namespace EfiHandoff

open Platform

def Answers.Told (answers : Answers) (history : History platform) : Prop :=
  ∀ exchange ∈ history, answers.Gives exchange

def stepsOf (history : History platform) : List Step := history.filterMap fun exchange => exchange.call.step?

section Told

def quiet : Answers where
  opened := .error .notFound
  root := none
  pages := .error .outOfResources
  delivery := ⟨#[], none⟩
  mode := .unknown
  trustRoot := none
  verified := .ok ()
  loaded := .error .outOfResources
  configured := .ok ()

variable {limit : MemoryLimit} {settings : Settings} {history first second : History platform}

private theorem Answers.told_append {answers : Answers} :
    answers.Told (first ++ second) ↔ answers.Told first ∧ answers.Told second :=
  List.forall_mem_append

private theorem Answers.told_nil (answers : Answers) : answers.Told [] := List.forall_mem_nil _

theorem Answers.Told.cons {answers : Answers} {exchange : Exchange platform} (gives : answers.Gives exchange)
    (told : answers.Told history) : answers.Told (exchange :: history) :=
  List.forall_mem_cons.mpr ⟨gives, told⟩

theorem Pending.Released.told {pending : Pending} (released : pending.Released history) (answers : Answers) :
    answers.Told history := by
  cases released with
  | firmware => exact .cons trivial (.cons trivial answers.told_nil)
  | validated => exact .cons trivial answers.told_nil

theorem PageReading.told {file : OpenFile} {size : Nat} {verdict : Except BootError PageRange}
    (reading : PageReading file size history verdict) :
    ∃ pages delivery, ∀ answers : Answers, answers.pages = pages → answers.delivery = delivery →
      answers.Told history := by
  cases reading with
  | @ungranted status =>
      refine ⟨.error status, ⟨#[], none⟩, fun answers pages _ => ?_⟩
      exact .cons pages.symm answers.told_nil
  | @atZero grant =>
      refine ⟨.ok grant, ⟨#[], none⟩, fun answers pages _ => ?_⟩
      exact .cons pages.symm (.cons trivial answers.told_nil)
  | @unread grant bytes error =>
      refine ⟨.ok grant, ⟨bytes, some error⟩, fun answers pages delivery => ?_⟩
      exact .cons pages.symm (.cons delivery.symm (.cons trivial answers.told_nil))
  | @filled grant bytes =>
      refine ⟨.ok grant, ⟨bytes, none⟩, fun answers pages delivery => ?_⟩
      exact .cons pages.symm (.cons delivery.symm answers.told_nil)

theorem Fetching.told {name : List Char} {verdict : Except BootError (Handle × Bytes × PageRange)}
    (fetching : Fetching limit name history verdict) :
    ∃ opened root pages delivery, ∀ answers : Answers, answers.opened = opened → answers.root = root →
      answers.pages = pages → answers.delivery = delivery → answers.Told history := by
  cases fetching with
  | @unopened error =>
      refine ⟨.error error, none, .error .success, ⟨#[], none⟩, fun answers opened _ _ _ => ?_⟩
      exact .cons opened.symm answers.told_nil
  | @unplaced file root =>
      refine ⟨.ok file, root, .error .success, ⟨#[], none⟩, fun answers opened root _ _ => ?_⟩
      exact .cons opened.symm (.cons root.symm (.cons trivial answers.told_nil))
  | @unfilled file root _ _ reading =>
      obtain ⟨pages, delivery, told⟩ := reading.told
      refine ⟨.ok file, root, pages, delivery, fun answers opened root granted delivered => ?_⟩
      refine .cons opened.symm (.cons root.symm (Answers.told_append.mpr ⟨told answers granted delivered, ?_⟩))
      exact .cons trivial answers.told_nil
  | @fetched file device devicePath _ _ _ _ reading =>
      obtain ⟨pages, delivery, told⟩ := reading.told
      refine ⟨.ok file, some ⟨device, some devicePath⟩, pages, delivery,
        fun answers opened root granted delivered => ?_⟩
      refine .cons opened.symm (.cons root.symm (Answers.told_append.mpr ⟨told answers granted delivered, ?_⟩))
      exact .cons trivial answers.told_nil

theorem Gate.told {path : Bytes} {image : Buffer} {verdict : Except BootError Route}
    (gate : Gate settings path image history verdict) :
    ∃ mode trustRoot verified loaded, ∀ answers : Answers, answers.mode = mode → answers.trustRoot = trustRoot →
      answers.verified = verified → answers.loaded = loaded → answers.Told history := by
  cases gate with
  | forced => exact ⟨.unknown, none, .ok (), .error .success, fun answers _ _ _ _ => answers.told_nil⟩
  | rootless =>
      refine ⟨.enabled, none, .ok (), .error .success, fun answers mode root _ _ => ?_⟩
      exact .cons mode.symm (.cons root.symm answers.told_nil)
  | @rejected source status =>
      refine ⟨.enabled, some source, .error status, .error .success, fun answers mode root verified _ => ?_⟩
      exact .cons mode.symm (.cons root.symm (.cons verified.symm answers.told_nil))
  | @verified source =>
      refine ⟨.enabled, some source, .ok (), .error .success, fun answers mode root verified _ => ?_⟩
      exact .cons mode.symm (.cons root.symm (.cons verified.symm answers.told_nil))
  | @refused mode status =>
      refine ⟨mode, none, .ok (), .error status, fun answers mode _ _ loaded => ?_⟩
      exact .cons mode.symm (.cons loaded.symm answers.told_nil)
  | @loaded mode handle =>
      refine ⟨mode, none, .ok (), .ok handle, fun answers mode _ _ loaded => ?_⟩
      exact .cons mode.symm (.cons loaded.symm answers.told_nil)

/-- What is asked of the file, of its image and of the record of the image is answered once each. -/
theorem told_parts {path : Bytes} {image : Buffer} {name : List Char} {route : Except BootError Route}
    {fetched : Except BootError (Handle × Bytes × PageRange)} (fetching : Fetching limit name first fetched)
    (gate : Gate settings path image second route) (configured : Except Status Unit) :
    ∃ answers : Answers, answers.Told first ∧ answers.Told second ∧ answers.configured = configured := by
  obtain ⟨opened, root, pages, delivery, early⟩ := fetching.told
  obtain ⟨mode, trustRoot, verified, loaded, late⟩ := gate.told
  exact ⟨⟨opened, root, pages, delivery, mode, trustRoot, verified, loaded, configured⟩,
    early _ rfl rfl rfl rfl, late _ rfl rfl rfl rfl, rfl⟩

/-- No question is asked twice, so that a history is one of fixed answers. -/
theorem Preparation.told {arguments : List (List Char)} {verdict : Except BootError Pending}
    (preparation : Preparation limit settings arguments history verdict) :
    ∃ answers : Answers, answers.Told history := by
  cases preparation with
  | nameless | unencoded => exact ⟨quiet, quiet.told_nil⟩
  | unread failed =>
      obtain ⟨opened, root, pages, delivery, told⟩ := (fetch_follows failed).told
      exact ⟨{ quiet with opened, root, pages, delivery }, told _ rfl rfl rfl rfl⟩
  | unselected fetched =>
      obtain ⟨opened, root, pages, delivery, told⟩ := (fetch_follows fetched).told
      exact ⟨{ quiet with opened, root, pages, delivery },
        Answers.told_append.mpr ⟨told _ rfl rfl rfl rfl, .cons trivial (Answers.told_nil _)⟩⟩
  | stopped fetched _ gate =>
      obtain ⟨answers, early, late, -⟩ := told_parts (fetch_follows fetched) gate (.ok ())
      exact ⟨answers, Answers.told_append.mpr ⟨early,
        Answers.told_append.mpr ⟨late, .cons trivial answers.told_nil⟩⟩⟩
  | @unconfigured _ _ _ _ _ _ _ status fetched _ _ gate released =>
      obtain ⟨answers, early, late, configured⟩ := told_parts (fetch_follows fetched) gate (.error status)
      exact ⟨answers, Answers.told_append.mpr ⟨early,
        Answers.told_append.mpr ⟨late, .cons configured.symm (released.told answers)⟩⟩⟩
  | firmware fetched _ _ gate =>
      obtain ⟨answers, early, late, configured⟩ := told_parts (fetch_follows fetched) gate (.ok ())
      exact ⟨answers, Answers.told_append.mpr ⟨early,
        Answers.told_append.mpr ⟨late, .cons configured.symm answers.told_nil⟩⟩⟩
  | validated fetched _ _ gate =>
      obtain ⟨answers, early, late, -⟩ := told_parts (fetch_follows fetched) gate (.ok ())
      exact ⟨answers, Answers.told_append.mpr ⟨early, late⟩⟩

end Told

section Order

variable {limit : MemoryLimit} {settings : Settings} {history : History platform}

private theorem stepsOf_append (first second : History platform) :
    stepsOf (first ++ second) = stepsOf first ++ stepsOf second :=
  List.filterMap_append

theorem Pending.Released.steps {pending : Pending} (released : pending.Released history) : stepsOf history = [] := by
  cases released <;> rfl

theorem PageReading.steps {file : OpenFile} {size : Nat} {verdict : Except BootError PageRange}
    (reading : PageReading file size history verdict) :
    (stepsOf history).Sublist [.allocated, .read] := by
  cases reading with
  | ungranted | atZero => exact (by decide : [Step.allocated].Sublist [.allocated, .read])
  | unread | filled => exact List.Sublist.refl _

theorem Fetching.steps {name : List Char} {verdict : Except BootError (Handle × Bytes × PageRange)}
    (fetching : Fetching limit name history verdict) :
    (stepsOf history).Sublist [.opened, .rooted, .allocated, .read] := by
  cases fetching with
  | unopened => exact (by decide : [Step.opened].Sublist [.opened, .rooted, .allocated, .read])
  | unplaced => exact (by decide : [Step.opened, .rooted].Sublist [.opened, .rooted, .allocated, .read])
  | unfilled reading | fetched _ reading =>
      refine List.Sublist.cons_cons _ (List.Sublist.cons_cons _ ?_)
      change (stepsOf (_ ++ _)).Sublist _
      rw [stepsOf_append, show stepsOf [_] = [] from rfl, List.append_nil]
      exact reading.steps

theorem Gate.steps {path : Bytes} {image : Buffer} {verdict : Except BootError Route}
    (gate : Gate settings path image history verdict) :
    (stepsOf history).Sublist [.dispatched, .dispatched, .dispatched] := by
  cases gate with
  | forced => exact List.nil_sublist _
  | rejected | verified => exact List.Sublist.refl _
  | _ => exact (by decide : [Step.dispatched, .dispatched].Sublist [.dispatched, .dispatched, .dispatched])

/-- The steps are begun in their order. -/
theorem Preparation.steps {arguments : List (List Char)} {verdict : Except BootError Pending}
    (preparation : Preparation limit settings arguments history verdict) :
    (stepsOf history).Sublist [.opened, .rooted, .allocated, .read, .dispatched, .dispatched, .dispatched,
      .configured] := by
  have freed {address : UInt64} {pages : Nat} {freed : Status} :
      stepsOf [⟨.freePages address pages, freed⟩] = [] := rfl
  cases preparation with
  | nameless | unencoded => exact List.nil_sublist _
  | unread failed => exact (fetch_follows failed).steps.trans (List.sublist_append_left _ _)
  | unselected fetched =>
      rw [stepsOf_append, freed]
      exact (fetch_follows fetched).steps.append (List.nil_sublist _)
  | stopped fetched _ gate =>
      rw [stepsOf_append, stepsOf_append, freed]
      exact (fetch_follows fetched).steps.append (gate.steps.append (List.nil_sublist _))
  | unconfigured fetched _ _ gate released =>
      rw [stepsOf_append, stepsOf_append]
      refine (fetch_follows fetched).steps.append (gate.steps.append (List.Sublist.cons_cons _ ?_))
      exact released.steps ▸ List.nil_sublist _
  | firmware fetched _ _ gate =>
      rw [stepsOf_append, stepsOf_append]
      exact (fetch_follows fetched).steps.append (gate.steps.append (List.Sublist.refl _))
  | validated fetched _ _ gate =>
      rw [stepsOf_append]
      exact (fetch_follows fetched).steps.append (gate.steps.trans (List.sublist_append_left _ [Step.configured]))

theorem Preparation.ascending {arguments : List (List Char)} {verdict : Except BootError Pending}
    (preparation : Preparation limit settings arguments history verdict) :
    (stepsOf history).Pairwise fun earlier later => earlier.rank ≤ later.rank :=
  List.Pairwise.sublist preparation.steps (by decide)

end Order

section Releases

variable {limit : MemoryLimit} {settings : Settings} {history : History platform}

/-- A preparation gives back only what it holds. -/
theorem Preparation.held {arguments : List (List Char)} {verdict : Except BootError Pending}
    (preparation : Preparation limit settings arguments history verdict) :
    ∃ left, resources.held [] history = some left := by
  cases verdict with
  | error error => exact ⟨_, preparation.unwinds.moves []⟩
  | ok pending => exact ⟨_, preparation.acquires.moves []⟩

theorem Trial.Passes.releases {trial : Trial} {call : Platform.Call} (passes : trial.Passes call)
    (stepless : call.step? = none) (reply : platform.Reply call) :
    ∃ thing, resources.effect ⟨call, reply⟩ = .release thing := by
  cases call <;> first | exact ⟨_, rfl⟩ | exact passes.elim | cases stepless

end Releases

/-- How a preparation goes, whatever it is told: for any answers that agree with those it was given, and whatever
the others say, it fails like the first step that fails. -/
structure GoesByStep (limit : MemoryLimit) (settings : Settings) (arguments : List (List Char))
    (history : History platform) (verdict : Except BootError Pending) : Prop where
  told : ∃ answers : Answers, answers.Told history
  fails : ∀ answers : Answers, answers.Told history → ∀ error,
    verdict = .error error ↔ ∃ step, (Trial.mk limit settings arguments answers).Stops step error
  /-- When a step fails, nothing is asked that belongs to a later one. -/
  stops : ∀ answers : Answers, answers.Told history → ∀ step error,
    (Trial.mk limit settings arguments answers).Stops step error → ∀ begun ∈ stepsOf history, begun.rank ≤ step.rank
  ascends : (stepsOf history).Pairwise fun earlier later => earlier.rank ≤ later.rank
  /-- What is asked besides gives back something that is held by then. -/
  releases : ∀ before exchange after, history = before ++ exchange :: after → exchange.call.step? = none →
    ∃ thing held, resources.effect exchange = .release thing ∧ resources.held [] before = some held ∧ thing ∈ held
  passes : ∀ answers : Answers, answers.Told history → ∀ exchange ∈ history,
    (Trial.mk limit settings arguments answers).Passes exchange.call
  delivers : ∀ answers : Answers, answers.Told history → ∀ pending, verdict = .ok pending →
    (∀ step, (Trial.mk limit settings arguments answers).failure step = none) ∧
      (Trial.mk limit settings arguments answers).Delivers pending

section Running

def Answers.reply (answers : Answers) : (question : Platform.Call) → Platform.Reply question
  | .openFile _ => answers.opened
  | .rootDevice => answers.root
  | .allocatePages _ _ => answers.pages
  | .readFile _ _ => answers.delivery
  | .secureBootMode => answers.mode
  | .trustRoot => answers.trustRoot
  | .verify _ => answers.verified
  | .loadImage _ _ => answers.loaded
  | .configureImage _ _ _ => answers.configured
  | .allocatePool _ _ => .error .outOfResources
  | .startImage _ => ⟨.success, none⟩
  | .callEntry _ _ | .freePool _ | .freePages _ _ | .unloadImage _ => .success
  | .snapshot => none
  | .layoutOf _ => .error .contextUnsupported
  | .install _ | .restore _ | .closeFile _ => ()

def Answers.machine (answers : Answers) : Machine platform Unit :=
  ⟨fun question state => (answers.reply question, state)⟩

private theorem Answers.gives_reply (answers : Answers) (question : Platform.Call) :
    answers.Gives ⟨question, answers.reply question⟩ := by
  cases question <;> first | rfl | trivial

private theorem Answers.told_run {α : Type} (answers : Answers) (program : Program platform α) :
    answers.Told (program.history answers.machine ()) := by
  induction program with
  | done ending => exact answers.told_nil
  | note entry rest ih => exact ih
  | ask question resume ih => exact .cons (answers.gives_reply question) (ih _)

/-- A root device without a path, an empty file and no free pages. -/
def faulty : Trial where
  limit := none
  settings := {}
  arguments := [['/', 'a']]
  answers := { quiet with opened := .ok ⟨1, 0⟩, root := some ⟨1, none⟩ }

end Running

section GoesByStep

variable {limit : MemoryLimit} {settings : Settings} {arguments : List (List Char)} {history : History platform}
  {verdict : Except BootError Pending}

private theorem Trial.Due.notLate {trial : Trial} {call : Platform.Call} {step begun : Step} {error : BootError}
    (due : trial.Due call) (stops : trial.Stops step error) (asks : call.step? = some begun) :
    begun.rank ≤ step.rank := by
  by_contra late
  exact nomatch stops.2.symm.trans (due.2 begun asks step (Nat.lt_of_not_le late))

/-- A preparation fails like the first of its steps that fails, asks nothing that belongs to a later step, and what it
delivers is made of what it was told. -/
theorem prepare_goes_by_step (follows : (prepare settings arguments limit).Follows history verdict) :
    GoesByStep limit settings arguments history verdict := by
  have preparation := prepare_follows follows
  have runs (answers : Answers) (told : answers.Told history) :=
    (Trial.mk limit settings arguments answers).prepare_runs history verdict follows told
  refine ⟨preparation.told, ?_, ?_, preparation.ascending, ?_, ?_, ?_⟩
  · intro answers told error
    obtain ⟨-, ended⟩ := runs answers told
    cases verdict with
    | error reason =>
        obtain ⟨step, stopped⟩ := ended
        constructor
        · intro same
          exact ⟨step, Except.error.inj same ▸ stopped⟩
        · intro ⟨other, stops⟩
          rw [stopped.unique stops]
    | ok pending =>
        refine ⟨nofun, ?_⟩
        intro ⟨step, stops⟩
        exact nomatch stops.2.symm.trans (ended.1 step)
  · intro answers told step error stops begun member
    obtain ⟨exchange, found, asks⟩ := List.mem_filterMap.mp member
    exact ((runs answers told).1 exchange found).notLate stops asks
  · intro before exchange after cut stepless
    obtain ⟨answers, told⟩ := preparation.told
    have member : exchange ∈ history := by simp [cut]
    obtain ⟨thing, released⟩ := ((runs answers told).1 exchange member).1.releases stepless exchange.reply
    obtain ⟨left, kept⟩ := preparation.held
    obtain ⟨held, start, member⟩ := Account.held_release (cut ▸ kept) released
    exact ⟨thing, held, released, start, member⟩
  · intro answers told exchange member
    exact ((runs answers told).1 exchange member).1
  · intro answers told pending same
    subst same
    exact (runs answers told).2

/-- Without a device path, a byte to read and a page to read it to, it is the device path that is missed. -/
theorem prepare_goes_by_step_faulty :
    faulty.failure .nonempty = some .endOfFile ∧ faulty.failure .allocated = some .outOfMemory ∧
      ((prepare faulty.settings faulty.arguments faulty.limit).run.run faulty.answers.machine ()).result =
        .error .noRootDevice := by
  have steps : GoesByStep faulty.limit faulty.settings faulty.arguments _ _ :=
    prepare_goes_by_step (Program.follows_history faulty.answers.machine _ ())
  refine ⟨rfl, rfl, (steps.fails faulty.answers (faulty.answers.told_run _) _).mpr ⟨.rooted, ?_, rfl⟩⟩
  intro step before
  cases step <;> first | rfl | exact absurd before (by decide)

/-- A heap that grants nothing leaves no place for the options. -/
example : ((prepare {} [['a'], ['b']] (some 0)).run.run quiet.machine ()).result = .error .outOfMemory := by rfl

end GoesByStep

end EfiHandoff
