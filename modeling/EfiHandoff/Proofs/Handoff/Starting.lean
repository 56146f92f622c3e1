import EfiHandoff.Handoff.Start
import EfiHandoff.Proofs.Handoff.Preparation
import EfiHandoff.Proofs.Image.Loading

/-!
# How a start goes

The ways the start of a pending handoff can go, each with its history.
-/

set_option autoImplicit false

namespace EfiHandoff.Pending

open Platform

variable {pending : Pending} {history : History platform}

theorem layout_follows {image : Buffer} {verdict : Except BootError Image.Layout}
    (follows : (layout image).Follows history verdict) :
    history = [⟨.trustRoot, some LayoutSource.own⟩, ⟨.layoutOf image, verdict⟩] ∨
      ∃ source : Option LayoutSource, source ≠ some .own ∧ history = [⟨.trustRoot, source⟩] ∧
        verdict = Fault.simplify (Image.readLayout image) := by
  obtain ⟨(source : Option LayoutSource), later, rfl, parsing⟩ := Attempt.follows_ask.mp follows
  clear follows
  by_cases own : source = some .own
  · rw [if_pos own] at parsing
    subst own
    have asked : later = [⟨.layoutOf image, verdict⟩] :=
      Program.follows_call.mp (Attempt.follows_mk.mp parsing)
    exact .inl (congrArg _ asked)
  · rw [if_neg own, Attempt.follows_report_bind] at parsing
    obtain ⟨rfl, rfl⟩ := Attempt.follows_checked.mp parsing
    exact .inr ⟨source, own, rfl, rfl⟩

theorem fileName_confined (allowed : Platform.Call → Prop) (pending : Pending) :
    Attempt.Confined (I := platform) allowed pending.fileName := by
  refine (Attempt.confined_ofChecked _).bind fun found => ?_
  cases found with
  | none => exact Attempt.confined_fail _ _
  | some offset => exact trivial

theorem enter_follows {record : ImageRecord} {loaded : Image.Loaded}
    {verdict : Except BootError Status}
    (follows : (enter record loaded).Follows history verdict) :
    history = [⟨.snapshot, none⟩] ∧ verdict = .error .noImageRecord ∨
      ∃ saved status, verdict = .ok status ∧
        history = [⟨.snapshot, some saved⟩, ⟨.install record, ()⟩,
          ⟨.callEntry loaded.entry loaded.bytes, status⟩, ⟨.restore saved, ()⟩] := by
  obtain ⟨saved, later, rfl, swapping⟩ := Attempt.follows_ask.mp follows
  clear follows
  cases saved with
  | none =>
      obtain ⟨rfl, rfl⟩ := Attempt.follows_fail.mp swapping
      exact .inl ⟨rfl, rfl⟩
  | some saved =>
      obtain ⟨⟨⟩, later, rfl, entering⟩ := Attempt.follows_ask.mp swapping
      rw [Attempt.follows_report_bind] at entering
      obtain ⟨status, later, rfl, restoring⟩ := Attempt.follows_ask.mp entering
      obtain ⟨⟨⟩, later, rfl, ended⟩ := Attempt.follows_ask.mp restoring
      obtain ⟨rfl, rfl⟩ := Attempt.follows_pure.mp ended
      exact .inr ⟨saved, status, rfl, rfl⟩

def verdictOn (status : Status) (text : String) : Except BootError Unit :=
  if status.isSuccess then .ok () else .error (.programFailed status text)

theorem verdictOn_eq_ok_iff {status : Status} {text : String} :
    verdictOn status text = .ok () ↔ status = .success := by
  unfold verdictOn
  split
  · next success => exact ⟨fun _ => beq_iff_eq.mp success, fun _ => rfl⟩
  · next failure => exact ⟨nofun, fun success => absurd (beq_iff_eq.mpr success) failure⟩

theorem verdictOn_of_failure {status : Status} {text : String} (failure : status ≠ .success) :
    verdictOn status text = .error (.programFailed status text) :=
  if_neg (mt beq_iff_eq.mp failure)

theorem verdictOn_follows {status : Status} {text : String} {entry : Entry}
    {verdict : Except BootError Unit}
    (follows : Attempt.Follows (I := platform) (if status.isSuccess then return ()
      else Attempt.fail (.programFailed status text) entry) history verdict) :
    history = [] ∧ verdict = verdictOn status text := by
  unfold verdictOn
  split at follows
  · next success =>
      rw [if_pos success]
      exact Attempt.follows_pure.mp follows
  · next failure =>
      rw [if_neg failure]
      exact Attempt.follows_fail.mp follows

theorem startLoaded_follows {image : Handle} {verdict : Except BootError Unit}
    (follows : (startLoaded image).Follows history verdict) :
    ∃ ending unloaded, history = [⟨.startImage image, ending⟩, ⟨.unloadImage image, unloaded⟩] ∧
      verdict = verdictOn ending.status (LoadOptions.exitText (ending.data.getD [])) := by
  rw [startLoaded, Attempt.follows_report_bind] at follows
  obtain ⟨ending, later, rfl, unloading⟩ := Attempt.follows_ask.mp follows
  obtain ⟨error, failed, rfl⟩ | ⟨⟨⟩, first, last, unloaded, ended, rfl⟩ :=
    Attempt.follows_bind.mp unloading
  · obtain ⟨_, -, ⟨⟩⟩ := Attempt.follows_lift.mp failed
  obtain ⟨⟨⟩, unloaded, -⟩ := Attempt.follows_lift.mp unloaded
  obtain ⟨status, rfl⟩ := unload_follows unloaded
  obtain ⟨rfl, same⟩ := verdictOn_follows ended
  exact ⟨ending, status, rfl, same⟩

inductive ValidatedStart (pending : Pending) : History platform → Except BootError Unit → Prop where
  | unparsed {first : History platform} {error : BootError}
      (failed : (layout pending.image).Follows first (.error error)) :
      ValidatedStart pending first (.error error)
  | unloaded {first second : History platform} {layout : Image.Layout} {error : BootError}
      (parsed : (Pending.layout pending.image).Follows first (.ok layout))
      (failed : (Image.load pending.image layout).Follows second (.error error)) :
      ValidatedStart pending (first ++ second) (.error error)
  | unnamed {first second : History platform} {layout : Image.Layout} {loaded : Image.Loaded}
      {freed : Status} {error : BootError}
      (parsed : (Pending.layout pending.image).Follows first (.ok layout))
      (loading : (Image.load pending.image layout).Follows second (.ok loaded))
      (failed : pending.fileName.Follows [] (.error error)) :
      ValidatedStart pending
        (first ++ (second ++ [⟨.freePool loaded.window.buffer.address, freed⟩])) (.error error)
  | recordless {first second : History platform} {layout : Image.Layout} {loaded : Image.Loaded}
      {freed : Status} (parsed : (Pending.layout pending.image).Follows first (.ok layout))
      (loading : (Image.load pending.image layout).Follows second (.ok loaded)) :
      ValidatedStart pending
        (first ++ (second ++
          [⟨.snapshot, none⟩, ⟨.freePool loaded.window.buffer.address, freed⟩]))
        (.error .noImageRecord)
  | entered {first second : History platform} {layout : Image.Layout} {loaded : Image.Loaded}
      {filePath : Bytes} {saved : ImageRecord} {status freed : Status}
      (parsed : (Pending.layout pending.image).Follows first (.ok layout))
      (loading : (Image.load pending.image layout).Follows second (.ok loaded))
      (named : pending.fileName.Follows [] (.ok filePath)) :
      ValidatedStart pending
        (first ++ (second ++ [⟨.snapshot, some saved⟩,
          ⟨.install (pending.record loaded filePath), ()⟩,
          ⟨.callEntry loaded.entry loaded.bytes, status⟩, ⟨.restore saved, ()⟩,
          ⟨.freePool loaded.window.buffer.address, freed⟩]))
        (verdictOn status "")

theorem startValidated_follows {verdict : Except BootError Unit}
    (follows : pending.startValidated.Follows history verdict) :
    ValidatedStart pending history verdict := by
  obtain ⟨error, failed, rfl⟩ | ⟨layout, first, later, parsed, loading, rfl⟩ :=
    Attempt.follows_bind.mp follows
  · exact .unparsed failed
  obtain ⟨error, failed, rfl⟩ | ⟨loaded, second, later, given, entering, rfl⟩ :=
    Attempt.follows_bind.mp loading
  · exact .unloaded parsed failed
  obtain ⟨error, failed, rfl⟩ | ⟨status, body, last, returned, ended, rfl⟩ :=
    Attempt.follows_bind.mp entering
  · obtain ⟨body, third, stopped, released, rfl⟩ := Attempt.follows_ensuring.mp failed
    obtain ⟨freed, rfl⟩ := PoolBuffer.release_follows released
    obtain ⟨_, unnamed, ⟨⟩⟩ | ⟨filePath, empty, last, named, refused, rfl⟩ :=
      Attempt.follows_bind.mp stopped
    · obtain rfl := (fileName_confined _ pending).silent unnamed
      exact .unnamed parsed given unnamed
    · obtain rfl := (fileName_confined _ pending).silent named
      obtain ⟨rfl, ⟨⟩⟩ | ⟨_, _, ⟨⟩, -⟩ := enter_follows refused
      exact .recordless parsed given
  · obtain ⟨body, third, entered, released, rfl⟩ := Attempt.follows_ensuring.mp returned
    obtain ⟨freed, rfl⟩ := PoolBuffer.release_follows released
    obtain ⟨_, _, ⟨⟩⟩ | ⟨filePath, empty, rest, named, swapped, rfl⟩ :=
      Attempt.follows_bind.mp entered
    obtain rfl := (fileName_confined _ pending).silent named
    obtain ⟨-, ⟨⟩⟩ | ⟨saved, _, ⟨⟩, rfl⟩ := enter_follows swapped
    obtain ⟨rfl, rfl⟩ := verdictOn_follows ended
    exact .entered parsed given named

/-- The ways the start of a pending handoff can go. The pages of the file go last. -/
inductive Start (pending : Pending) : History platform → Except BootError Unit → Prop where
  | firmware {image : Handle} {ending : ImageExit} {unloaded freed : Status}
      (route : pending.route = .firmware image) :
      Start pending [⟨.startImage image, ending⟩, ⟨.unloadImage image, unloaded⟩,
          ⟨.freePages pending.file.address pending.file.pages, freed⟩]
        (verdictOn ending.status (LoadOptions.exitText (ending.data.getD [])))
  | validated {body : History platform} {verdict : Except BootError Unit} {freed : Status}
      (route : pending.route = .validated) (started : ValidatedStart pending body verdict) :
      Start pending (body ++ [⟨.freePages pending.file.address pending.file.pages, freed⟩]) verdict

theorem start_follows {verdict : Except BootError Unit}
    (follows : pending.start.Follows history verdict) : Start pending history verdict := by
  obtain ⟨body, last, started, released, rfl⟩ := Attempt.follows_ensuring.mp follows
  obtain ⟨freed, rfl⟩ := PageRange.release_follows released
  cases route : pending.route with
  | firmware image =>
      rw [route] at started
      obtain ⟨ending, unloaded, rfl, rfl⟩ := startLoaded_follows started
      exact .firmware route
  | validated =>
      rw [route] at started
      exact .validated route (startValidated_follows started)

end EfiHandoff.Pending
