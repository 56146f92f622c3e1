import EfiHandoff.Proofs.Handoff.Holdings

/-!
# The steps of a preparation

What each step of a preparation makes of the answers it may get is said here for the step by itself, with all the
answers at hand, those to questions that are never asked included. A preparation fails like the first step that
fails, asks what belongs to a step only when all steps before it pass, and passes on what they found.
-/

set_option autoImplicit false

namespace EfiHandoff

open Platform

/-- A step of a preparation, named for what holds behind it. -/
inductive Step
  | named
  | encoded
  | opened
  | rooted
  | pathBuilt
  | nonempty
  | withinLimit
  | allocated
  | read
  | selected
  | dispatched
  | configured
deriving DecidableEq, Repr

namespace Step

def rank : Step → Nat
  | .named => 0
  | .encoded => 1
  | .opened => 2
  | .rooted => 3
  | .pathBuilt => 4
  | .nonempty => 5
  | .withinLimit => 6
  | .allocated => 7
  | .read => 8
  | .selected => 9
  | .dispatched => 10
  | .configured => 11

theorem rank_injective {left right : Step} (same : left.rank = right.rank) : left = right := by
  cases left <;> cases right <;> first | rfl | cases same

theorem rank_lt (step : Step) : step.rank < 12 := by
  cases step <;> decide

end Step

/-- The step that asks a question; what is given back belongs to none. -/
def Platform.Call.step? : Platform.Call → Option Step
  | .openFile _ => some .opened
  | .rootDevice => some .rooted
  | .allocatePages _ _ => some .allocated
  | .readFile _ _ => some .read
  | .secureBootMode | .trustRoot | .verify _ | .loadImage _ _ => some .dispatched
  | .configureImage _ _ _ => some .configured
  | _ => none

/-- An answer to each question of a preparation, whether or not it is asked. -/
structure Answers where
  opened : Except FileError OpenFile
  root : Option RootDevice
  pages : Except Status Grant
  delivery : Delivery
  mode : SecureBootMode
  trustRoot : Option LayoutSource
  verified : Except Status Unit
  loaded : Except Status Handle
  configured : Except Status Unit

/-- The platform answered as these answers say. How it takes things back is left open. -/
def Answers.Gives (answers : Answers) : Exchange platform → Prop
  | ⟨.openFile _, reply⟩ => reply = answers.opened
  | ⟨.rootDevice, reply⟩ => reply = answers.root
  | ⟨.allocatePages _ _, reply⟩ => reply = answers.pages
  | ⟨.readFile _ _, reply⟩ => reply = answers.delivery
  | ⟨.secureBootMode, reply⟩ => reply = answers.mode
  | ⟨.trustRoot, reply⟩ => reply = answers.trustRoot
  | ⟨.verify _, reply⟩ => reply = answers.verified
  | ⟨.loadImage _ _, reply⟩ => reply = answers.loaded
  | ⟨.configureImage _ _ _, reply⟩ => reply = answers.configured
  | _ => True

def refusal {α : Type} : Except BootError α → Option BootError
  | .ok _ => none
  | .error error => some error

structure Trial where
  limit : MemoryLimit
  settings : Settings
  arguments : List (List Char)
  answers : Answers

namespace Trial

def usesFirmware (trial : Trial) : Bool :=
  !trial.settings.forceValidated && trial.answers.mode ≠ .enabled

/-- The error of a step, if it fails. It does not depend on the steps before, other than by what they find. -/
def failure (trial : Trial) : Step → Option BootError
  | .named => if trial.arguments.isEmpty then some .missingFileName else none
  | .encoded => refusal (Fault.simplify (LoadOptions.encode trial.limit trial.arguments.tail))
  | .opened =>
      match trial.answers.opened with
      | .ok _ => none
      | .error .notFound => some .fileNotFound
      | .error .short => some .endOfFile
      | .error (.device status) => some (.deviceFailure status)
  | .rooted =>
      match trial.answers.root with
      | some ⟨_, some _⟩ => none
      | _ => some .noRootDevice
  | .pathBuilt =>
      match trial.arguments, trial.answers.root with
      | name :: _, some ⟨_, some devicePath⟩ =>
          refusal (Fault.simplify (DevicePath.ofFile trial.limit devicePath name))
      | _, _ => none
  | .nonempty =>
      match trial.answers.opened with
      | .ok file => if file.size = 0 then some .endOfFile else none
      | .error _ => none
  | .withinLimit =>
      match trial.answers.opened with
      | .ok file => if trial.settings.maxImageSize < file.size then some (.fileTooLarge file.size) else none
      | .error _ => none
  | .allocated =>
      match trial.answers.pages with
      | .ok grant => if grant.address = 0 then some .outOfMemory else none
      | .error _ => some .outOfMemory
  | .read =>
      match trial.answers.delivery.failure with
      | none => none
      | some .notFound => some .fileNotFound
      | some .short => some .endOfFile
      | some (.device status) => some (.deviceFailure status)
  | .selected => refusal (imageOf trial.settings trial.answers.delivery.bytes)
  | .dispatched =>
      if trial.settings.forceValidated then none
      else if trial.answers.mode = .enabled then
        match trial.answers.trustRoot, trial.answers.verified with
        | none, _ => some .noTrustRoot
        | some _, .ok _ => none
        | some _, .error _ => some .verificationFailed
      else
        match trial.answers.loaded with
        | .ok _ => none
        | .error status =>
            some (if status = .outOfResources then .loaderOutOfResources else .loaderRefused status)
  | .configured =>
      if trial.usesFirmware then
        match trial.answers.configured with
        | .ok _ => none
        | .error _ => some .noImageRecord
      else none

def Passed (trial : Trial) (count : Nat) : Prop := ∀ step : Step, step.rank < count → trial.failure step = none

def Stops (trial : Trial) (step : Step) (error : BootError) : Prop :=
  trial.Passed step.rank ∧ trial.failure step = some error

/-- The device path of the file that is named, on the root device. -/
def IsPath (trial : Trial) (path : Bytes) : Prop :=
  ∃ name rest device devicePath, trial.arguments = name :: rest ∧
    trial.answers.root = some ⟨device, some devicePath⟩ ∧ DevicePath.ofFile trial.limit devicePath name = .ok path

def IsImage (trial : Trial) (image : Buffer) : Prop :=
  imageOf trial.settings trial.answers.delivery.bytes = .ok image

def IsRange (trial : Trial) (address : UInt64) (pages : Nat) : Prop :=
  ∃ file grant, trial.answers.opened = .ok file ∧ trial.answers.pages = .ok grant ∧ grant.address = address ∧
    pagesFor file.size.toNat = pages

/-- A question passes on what the steps before it found. No other question is asked. -/
def Passes (trial : Trial) : Platform.Call → Prop
  | .openFile name => trial.arguments.head? = some name
  | .allocatePages kind pages =>
      kind = .code ∧ ∃ file, trial.answers.opened = .ok file ∧ pagesFor file.size.toNat = pages
  | .readFile file size => trial.answers.opened = .ok file ∧ file.size.toNat = size
  | .rootDevice | .secureBootMode | .trustRoot => True
  | .verify image => trial.IsImage image
  | .loadImage path image => trial.IsPath path ∧ trial.IsImage image
  | .configureImage image device options =>
      trial.answers.loaded = .ok image ∧ (∃ path, trial.answers.root = some ⟨device, path⟩) ∧
        LoadOptions.encode trial.limit trial.arguments.tail = .ok options
  | .closeFile file => trial.answers.opened = .ok file
  | .freePages address pages => trial.IsRange address pages
  | .unloadImage image => trial.answers.loaded = .ok image
  | _ => False

/-- A question is asked in its turn: no step before its own fails. -/
def Due (trial : Trial) (call : Platform.Call) : Prop :=
  trial.Passes call ∧ ∀ step, call.step? = some step → trial.Passed step.rank

def Routes (trial : Trial) : Route → Prop
  | .firmware image => trial.usesFirmware = true ∧ trial.answers.loaded = .ok image
  | .validated => trial.usesFirmware = false

/-- What is prepared is made of what the answers hold. -/
structure Delivers (trial : Trial) (pending : Pending) : Prop where
  range : trial.IsRange pending.file.address pending.file.pages
  bytes : pending.file.bytes = trial.answers.delivery.bytes
  image : trial.IsImage pending.image
  path : trial.IsPath pending.path
  options : LoadOptions.encode trial.limit trial.arguments.tail = .ok pending.options
  device : ∃ path, trial.answers.root = some ⟨pending.device, path⟩
  route : trial.Routes pending.route

/-- Told the answers, an attempt asks in their turn what its steps ask, and fails only like the first step that
fails. -/
abbrev Runs {α : Type} (trial : Trial) (attempt : Try α) (ends : α → Prop) : Prop :=
  attempt.Meets trial.answers.Gives trial.Due (fun error => ∃ step, trial.Stops step error) ends

section Order

variable {trial : Trial} {step : Step} {error : BootError}

theorem passed_none : trial.Passed 0 := fun _ impossible => absurd impossible (Nat.not_lt_zero _)

theorem Passed.next (passed : trial.Passed step.rank) (passes : trial.failure step = none) :
    trial.Passed (step.rank + 1) := by
  intro earlier before
  rcases Nat.lt_or_eq_of_le (Nat.le_of_lt_succ before) with lower | same
  · exact passed earlier lower
  · rw [Step.rank_injective same]
    exact passes

theorem passed_all : trial.Passed 12 ↔ ∀ step, trial.failure step = none :=
  ⟨fun passed step => passed step step.rank_lt, fun passes step _ => passes step⟩

/-- Only one step is the first that fails. -/
theorem Stops.unique {other : Step} {reason : BootError} (stops : trial.Stops step error)
    (too : trial.Stops other reason) : reason = error := by
  obtain ⟨passed, fails⟩ := stops
  obtain ⟨passedToo, failsToo⟩ := too
  rcases Nat.lt_trichotomy step.rank other.rank with lower | same | higher
  · exact nomatch fails.symm.trans (passedToo step lower)
  · obtain rfl := Step.rank_injective same
    exact Option.some.inj (failsToo.symm.trans fails)
  · exact nomatch failsToo.symm.trans (passed other higher)

/-- A step whose failure is the error of a checked value stops with it, or passes. -/
theorem runs_settled {α : Type} {attempt : Try α} {checked : Except BootError α} {ends : α → Prop}
    (passed : trial.Passed step.rank) (judged : trial.failure step = refusal checked)
    (settles : ∀ history verdict, attempt.Follows history verdict → history = [] ∧ verdict = checked)
    (ending : ∀ value, checked = .ok value → trial.Passed (step.rank + 1) → ends value) :
    trial.Runs attempt ends := by
  refine Attempt.meets_settled settles ?_ ?_
  · intro error refused
    exact ⟨step, passed, by rw [judged, refused, refusal]⟩
  · intro value accepted
    exact ending value accepted (passed.next (by rw [judged, accepted, refusal]))

end Order

end Trial

end EfiHandoff
