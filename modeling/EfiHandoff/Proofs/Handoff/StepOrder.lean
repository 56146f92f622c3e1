import EfiHandoff.Proofs.Handoff.Steps

/-!
# The order of the steps

Each function of the preparation goes through its steps in their order, and so does the whole.
-/

set_option autoImplicit false

namespace EfiHandoff

open Platform

namespace Trial

variable {trial : Trial} {name : List Char} {rest : List (List Char)}

/-- A question without a step of its own gives something back. -/
theorem due_of_stepless {call : Platform.Call} (passes : trial.Passes call) (stepless : call.step? = none) :
    trial.Due call :=
  ⟨passes, fun _ asks => nomatch stepless.symm.trans asks⟩

private theorem due_of_step {call : Platform.Call} {step : Step} (passes : trial.Passes call)
    (asks : call.step? = some step) (passed : trial.Passed step.rank) : trial.Due call := by
  refine ⟨passes, ?_⟩
  intro asked same
  obtain rfl : step = asked := Option.some.inj (asks.symm.trans same)
  exact passed

private theorem releaseAt_confined {address : UInt64} {pages : Nat} (range : trial.IsRange address pages) :
    (PageRange.releaseAt address pages).Confined trial.Due :=
  ⟨due_of_stepless range rfl, fun _ => Program.confined_report_if⟩

private theorem unload_confined {image : Handle} (loaded : trial.answers.loaded = .ok image) :
    (unload image).Confined trial.Due :=
  ⟨due_of_stepless loaded rfl, fun _ => Program.confined_report_if⟩

section Fetch

private theorem withFile_runs {α : Type} {use : OpenFile → Try α} {ends : α → Prop}
    (passed : trial.Passed Step.opened.rank) (named : trial.arguments = name :: rest)
    (used : ∀ file, trial.answers.opened = .ok file → trial.Passed Step.rooted.rank → trial.Runs (use file) ends) :
    trial.Runs (withFile name use) ends := by
  have due : trial.Due (.openFile name) := due_of_step (by rw [Passes, named]; rfl) rfl passed
  refine Attempt.meets_ask due fun opened answered => ?_
  have opened : opened = trial.answers.opened := answered
  subst opened
  cases opened : trial.answers.opened with
  | error error =>
      refine Attempt.meets_fail ⟨.opened, passed, ?_⟩
      rw [failure, opened]
      cases error <;> rfl
  | ok file =>
      have passes : trial.failure .opened = none := by rw [failure, opened]
      refine (used file opened (passed.next passes)).ensuring ?_
      exact ⟨due_of_stepless opened rfl, fun _ => trivial⟩

private theorem requireRoot_runs (passed : trial.Passed Step.rooted.rank) :
    trial.Runs requireRoot fun found => trial.Passed Step.pathBuilt.rank ∧
      trial.answers.root = some ⟨found.1, some found.2⟩ := by
  refine Attempt.meets_ask (due_of_step trivial rfl passed) fun root answered => ?_
  have answered : root = trial.answers.root := answered
  subst answered
  rcases root : trial.answers.root with _ | ⟨handle, _ | path⟩
  · refine Attempt.meets_fail ⟨.rooted, passed, ?_⟩
    rw [failure, root]
  · refine Attempt.meets_fail ⟨.rooted, passed, ?_⟩
    rw [failure, root]
  · refine Attempt.meets_pure ⟨passed.next ?_, rfl⟩
    rw [failure, root]

private theorem buildPath_runs {device : Handle} {devicePath : Bytes} (passed : trial.Passed Step.pathBuilt.rank)
    (named : trial.arguments = name :: rest) (root : trial.answers.root = some ⟨device, some devicePath⟩) :
    trial.Runs (buildPath trial.limit devicePath name) fun path =>
      trial.Passed Step.nonempty.rank ∧ trial.IsPath path := by
  refine runs_settled passed (by rw [failure, named, root]) (fun _ _ => buildPath_follows) ?_
  intro path built later
  exact ⟨later, name, rest, device, devicePath, named, root, Fault.simplify_eq_ok_iff.mp built⟩

private theorem acceptSize_runs {file : OpenFile} (passed : trial.Passed Step.nonempty.rank)
    (opened : trial.answers.opened = .ok file) :
    trial.Runs (acceptSize trial.settings name file.size) fun size =>
      trial.Passed Step.allocated.rank ∧ file.size.toNat = size := by
  unfold acceptSize
  split
  next empty =>
    refine Attempt.meets_fail ⟨.nonempty, passed, ?_⟩
    simp only [failure, opened, if_pos empty]
  next filled =>
    have passed : trial.Passed Step.withinLimit.rank := passed.next (by simp only [failure, opened, if_neg filled])
    split
    next large =>
      refine Attempt.meets_fail ⟨.withinLimit, passed, ?_⟩
      simp only [failure, opened, if_pos large]
    next small =>
      exact Attempt.meets_pure ⟨passed.next (by simp only [failure, opened, if_neg small]), rfl⟩

private theorem reserve_runs {file : OpenFile} (passed : trial.Passed Step.allocated.rank)
    (opened : trial.answers.opened = .ok file) :
    trial.Runs (PageRange.reserve .code file.size.toNat) fun reserved =>
      trial.Passed Step.read.rank ∧ trial.IsRange reserved.1.address reserved.1.pages := by
  have due : trial.Due (.allocatePages .code (pagesFor file.size.toNat)) :=
    due_of_step ⟨rfl, file, opened, rfl⟩ rfl passed
  refine Attempt.meets_ask due fun pages answered => ?_
  have answered : pages = trial.answers.pages := answered
  subst answered
  cases granted : trial.answers.pages with
  | error status =>
      refine runs_settled passed ?_ (fun _ _ => Attempt.follows_ofChecked.mp) nofun
      rw [failure, granted]
      rfl
  | ok grant =>
      have range (zero : grant.address = 0) : trial.IsRange 0 (pagesFor file.size.toNat) :=
        ⟨file, grant, opened, granted, zero, rfl⟩
      dsimp only
      split
      next zero =>
        refine Attempt.Meets.ensuring ?_ (releaseAt_confined (range zero))
        refine runs_settled passed ?_ (fun _ _ => Attempt.follows_ofChecked.mp) nofun
        simp only [failure, granted, if_pos zero]
        rfl
      next elsewhere =>
        refine Attempt.meets_pure ⟨passed.next ?_, file, grant, opened, granted, rfl, rfl⟩
        simp only [failure, granted, if_neg elsewhere]

private theorem readPages_runs {file : OpenFile} (passed : trial.Passed Step.allocated.rank)
    (opened : trial.answers.opened = .ok file) :
    trial.Runs (readPages name file file.size.toNat) fun pages => trial.Passed Step.selected.rank ∧
      trial.IsRange pages.address pages.pages ∧ pages.bytes = trial.answers.delivery.bytes := by
  refine (reserve_runs passed opened).bind fun ⟨pages, grant⟩ ⟨passed, range⟩ => ?_
  refine Attempt.Meets.onFailure ?_ (releaseAt_confined range)
  have due : trial.Due (.readFile file file.size.toNat) := due_of_step ⟨opened, rfl⟩ rfl passed
  refine Attempt.meets_ask due fun delivery answered => ?_
  have answered : delivery = trial.answers.delivery := answered
  subst answered
  unfold Delivery.complete
  cases failed : trial.answers.delivery.failure with
  | some error =>
      refine Attempt.meets_fail ⟨.read, passed, ?_⟩
      rw [failure, failed]
      cases error <;> rfl
  | none =>
      refine Attempt.meets_pure ⟨passed.next ?_, range, rfl⟩
      rw [failure, failed]

theorem fetch_runs (passed : trial.Passed Step.opened.rank) (named : trial.arguments = name :: rest) :
    trial.Runs (fetch trial.limit trial.settings name) fun (device, path, pages) => trial.Passed Step.selected.rank ∧
      (∃ devicePath, trial.answers.root = some ⟨device, devicePath⟩) ∧ trial.IsPath path ∧
      trial.IsRange pages.address pages.pages ∧ pages.bytes = trial.answers.delivery.bytes := by
  refine withFile_runs passed named fun file opened passed => ?_
  refine (requireRoot_runs passed).bind fun ⟨device, devicePath⟩ ⟨passed, root⟩ => ?_
  refine (buildPath_runs passed named root).bind fun path ⟨passed, built⟩ => ?_
  refine (acceptSize_runs passed opened).bind fun size ⟨passed, same⟩ => ?_
  subst same
  refine (readPages_runs passed opened).bind fun pages ⟨passed, range, bytes⟩ => ?_
  exact Attempt.meets_pure ⟨passed, ⟨some devicePath, root⟩, built, range, bytes⟩

end Fetch

section Dispatch

private theorem selectImage_runs {bytes : Buffer} (passed : trial.Passed Step.selected.rank)
    (read : bytes = trial.answers.delivery.bytes) :
    trial.Runs (selectImage trial.settings bytes) fun image =>
      trial.Passed Step.dispatched.rank ∧ trial.IsImage image := by
  subst read
  refine runs_settled passed rfl (fun _ _ => selectImage_follows) ?_
  intro image selected later
  exact ⟨later, selected⟩

private theorem requireVerified_runs {image : Buffer} (passed : trial.Passed Step.dispatched.rank)
    (selected : trial.IsImage image) (free : ¬ trial.settings.forceValidated = true)
    (enabled : trial.answers.mode = .enabled) :
    trial.Runs (requireVerified image) fun _ => trial.Passed Step.configured.rank := by
  refine Attempt.meets_ask (due_of_step trivial rfl passed) fun root answered => ?_
  have answered : root = trial.answers.trustRoot := answered
  subst answered
  cases root : trial.answers.trustRoot with
  | none =>
      refine Attempt.meets_fail ⟨.dispatched, passed, ?_⟩
      simp only [failure, if_neg free, if_pos enabled, root]
  | some source =>
      refine Attempt.meets_ask (due_of_step selected rfl passed) fun reply answered => ?_
      have answered : reply = trial.answers.verified := answered
      subst answered
      cases verified : trial.answers.verified with
      | error status =>
          refine Attempt.meets_fail ⟨.dispatched, passed, ?_⟩
          simp only [failure, if_neg free, if_pos enabled, root, verified]
      | ok =>
          refine Attempt.meets_settled (fun _ _ => Attempt.follows_report.mp) nofun fun _ _ => passed.next ?_
          simp only [failure, if_neg free, if_pos enabled, root, verified]

private theorem requireLoaded_runs {path : Bytes} {image : Buffer} (passed : trial.Passed Step.dispatched.rank)
    (built : trial.IsPath path) (selected : trial.IsImage image) (free : ¬ trial.settings.forceValidated = true)
    (open_ : ¬ trial.answers.mode = .enabled) :
    trial.Runs (requireLoaded path image) fun handle =>
      trial.Passed Step.configured.rank ∧ trial.answers.loaded = .ok handle := by
  refine Attempt.meets_ask (due_of_step ⟨built, selected⟩ rfl passed) fun reply answered => ?_
  have answered : reply = trial.answers.loaded := answered
  subst answered
  cases loaded : trial.answers.loaded with
  | error status =>
      refine Attempt.meets_fail ⟨.dispatched, passed, ?_⟩
      simp only [failure, if_neg free, if_neg open_, loaded]
  | ok handle =>
      refine Attempt.meets_pure ⟨passed.next ?_, rfl⟩
      simp only [failure, if_neg free, if_neg open_, loaded]

private theorem chooseRoute_runs {path : Bytes} {image : Buffer} (passed : trial.Passed Step.dispatched.rank)
    (built : trial.IsPath path) (selected : trial.IsImage image) :
    trial.Runs (chooseRoute trial.settings path image) fun route =>
      trial.Passed Step.configured.rank ∧ trial.Routes route := by
  unfold chooseRoute
  split
  next forced =>
    refine Attempt.meets_report_bind (Attempt.meets_pure ⟨passed.next ?_, ?_⟩)
    · simp only [failure, if_pos forced]
    · simp [Routes, usesFirmware, forced]
  next free =>
    refine Attempt.meets_ask (due_of_step trivial rfl passed) fun mode answered => ?_
    have answered : mode = trial.answers.mode := answered
    subst answered
    split
    next enabled =>
      refine (requireVerified_runs passed selected free enabled).bind fun _ passed => ?_
      exact Attempt.meets_pure ⟨passed, by simp [Routes, usesFirmware, enabled]⟩
    next open_ =>
      refine (requireLoaded_runs passed built selected free open_).bind fun handle ⟨passed, loaded⟩ => ?_
      exact Attempt.meets_pure ⟨passed, by simp [usesFirmware, free, open_], loaded⟩

private theorem route_runs {path : Bytes} {file : PageRange} (passed : trial.Passed Step.selected.rank)
    (built : trial.IsPath path) (read : file.bytes = trial.answers.delivery.bytes)
    (range : trial.IsRange file.address file.pages) :
    trial.Runs (Attempt.onFailure file.release do
      let image ← selectImage trial.settings file.bytes
      let route ← chooseRoute trial.settings path image
      return (image, route)) fun (image, route) =>
        trial.Passed Step.configured.rank ∧ trial.IsImage image ∧ trial.Routes route := by
  refine Attempt.Meets.onFailure ?_ (releaseAt_confined range)
  refine (selectImage_runs passed read).bind fun image ⟨passed, selected⟩ => ?_
  refine (chooseRoute_runs passed built selected).bind fun route ⟨passed, routed⟩ => ?_
  exact Attempt.meets_pure ⟨passed, selected, routed⟩

private theorem configure_runs {pending : Pending} (passed : trial.Passed Step.configured.rank)
    (delivers : trial.Delivers pending) :
    trial.Runs (configure pending) fun _ => trial.Passed (Step.configured.rank + 1) := by
  have routed := delivers.route
  unfold configure
  cases route : pending.route with
  | validated =>
      rw [route] at routed
      refine Attempt.meets_pure (passed.next ?_)
      simp only [failure, show trial.usesFirmware = false from routed, Bool.false_eq_true, if_false]
  | firmware image =>
      rw [route] at routed
      obtain ⟨firmware, loaded⟩ := routed
      have due : trial.Due (.configureImage image pending.device pending.options) :=
        due_of_step ⟨loaded, delivers.device, delivers.options⟩ rfl passed
      refine Attempt.meets_ask due fun reply answered => ?_
      have answered : reply = trial.answers.configured := answered
      subst answered
      cases configured : trial.answers.configured with
      | error status =>
          refine Attempt.meets_fail ⟨.configured, passed, ?_⟩
          simp only [failure, if_pos firmware, configured]
      | ok =>
          refine Attempt.meets_pure (passed.next ?_)
          simp only [failure, if_pos firmware, configured]

private theorem release_confined {pending : Pending} (delivers : trial.Delivers pending) :
    pending.release.Confined trial.Due := by
  have routed := delivers.route
  refine Program.Confined.bind ?_ fun _ => releaseAt_confined delivers.range
  unfold Route.release
  cases route : pending.route with
  | validated => exact trivial
  | firmware image =>
      rw [route] at routed
      exact unload_confined routed.2

end Dispatch

private theorem encode_runs (passed : trial.Passed Step.encoded.rank) (named : trial.arguments = name :: rest) :
    trial.Runs (Attempt.ofChecked (LoadOptions.encode trial.limit rest)) fun options =>
      trial.Passed Step.opened.rank ∧ LoadOptions.encode trial.limit trial.arguments.tail = .ok options := by
  refine runs_settled passed (by rw [failure, named, List.tail_cons]) (fun _ _ => Attempt.follows_ofChecked.mp) ?_
  intro options encoded passed
  rw [named]
  exact ⟨passed, Fault.simplify_eq_ok_iff.mp encoded⟩

/-- Told the answers, a preparation goes through its steps in their order, and delivers what they hold. -/
theorem prepare_runs (trial : Trial) :
    trial.Runs (prepare trial.settings trial.arguments trial.limit) fun pending =>
      (∀ step, trial.failure step = none) ∧ trial.Delivers pending := by
  unfold prepare
  split
  next unnamed =>
    refine Attempt.meets_fail ⟨.named, passed_none, ?_⟩
    rw [failure, unnamed]
    rfl
  next name rest named =>
    have passed : trial.Passed Step.encoded.rank := passed_none.next (by rw [failure, named]; rfl)
    refine (encode_runs passed named).bind fun options ⟨passed, encoded⟩ => ?_
    refine (fetch_runs passed named).bind fun ⟨device, path, file⟩ ⟨passed, root, built, range, bytes⟩ => ?_
    refine (route_runs passed built bytes range).bind fun ⟨image, route⟩ ⟨passed, selected, routed⟩ => ?_
    have delivers : trial.Delivers ⟨file, image, path, options, device, route⟩ :=
      ⟨range, bytes, selected, built, encoded, root, routed⟩
    refine ((configure_runs passed delivers).onFailure (release_confined delivers)).bind fun _ passed => ?_
    exact Attempt.meets_report_bind (Attempt.meets_pure ⟨passed_all.mp passed, delivers⟩)

end Trial

end EfiHandoff
