import EfiHandoff.Proofs.Handoff.Starting
import EfiHandoff.Proofs.Image.LoadReporting

/-!
# What is reported when a start fails

A start that fails has written an error by then, except where a trust root with a parser of its own had the last word
on the layout, or memory was granted beyond the address space.
-/

set_option autoImplicit false

namespace EfiHandoff

open Platform Testimony

namespace Pending

/-- How a start can fail without a word of its own. -/
inductive Untold (pending : Pending) (history : History platform) : BootError → Prop where
  /-- The trust root has a parser of its own, which refused the image, and it was for it to say so. -/
  | refused {error : BootError} (own : ⟨.trustRoot, some .own⟩ ∈ history)
      (answered : ⟨.layoutOf pending.image, .error error⟩ ∈ history) : Untold pending history error
  /-- The layout of the trust root has a flaw that no headers have. -/
  | flawed {layout : Image.Layout} {error : BootError} (answered : ⟨.layoutOf pending.image, .ok layout⟩ ∈ history)
      (untold : Image.Untold pending.image layout error) : Untold pending history error
  | beyond (beyond : PoolBeyond history) : Untold pending history .outOfMemory

end Pending

def Testimony.untold (pending : Pending) : Testimony platform where
  holds history _ error := pending.Untold history error
  grows asked _ untold := by
    cases untold with
    | refused own answered => exact .refused (asked own) (asked answered)
    | flawed answered untold => exact .flawed (asked answered) untold
    | beyond beyond => exact .beyond (beyond.mono asked)

abbrev Testimony.starting (pending : Pending) : Testimony platform := sourced.and (spoken.or (untold pending))

namespace Pending

variable {pending : Pending} {α : Type} {attempt : Try α}

private theorem starting_of_told (bears : attempt.Bears (sourced.and spoken)) : attempt.Bears (starting pending) :=
  bears.mono fun _ _ _ told => ⟨told.1, .inl told.2⟩

/-- The last word on how a program ended is an error that names its status, unless that is success. -/
theorem verdict_tells {history : History platform} {status : Status} {text message : String}
    (blamed : status ≠ .success → ∃ exchange ∈ history, Blames exchange status) :
    Attempt.Bears ((sourced.and spoken).after history []) (if status.isSuccess then return () else
      Attempt.fail (.programFailed status text) (Origin.handoff.error message)) := by
  split
  · exact Attempt.bears_pure
  · next failure =>
      refine Attempt.bears_fail ⟨?_, _, List.mem_singleton_self _, .inl rfl⟩
      intro carried same
      obtain rfl := Option.some.inj same
      rw [List.append_nil]
      exact blamed (mt beq_iff_eq.mpr failure)

private theorem startLoaded_tells (image : Handle) :
    Attempt.Bears (sourced.and spoken) (startLoaded image) := by
  refine Attempt.bears_report_bind (.after (Attempt.bears_ask fun (ending : ImageExit) => ?_) _ _)
  refine (Attempt.bears_lift _).bind fun _ => verdict_tells fun failure => ?_
  exact ⟨_, List.mem_singleton_self _, rfl, failure⟩

private theorem fileName_tells : Attempt.Bears (sourced.and spoken) pending.fileName := by
  refine (tells_ofChecked fun fault => fault.loud).bind fun found => ?_
  cases found with
  | none => exact tells_fail rfl
  | some offset => exact Attempt.bears_pure

private theorem enter_tells (record : ImageRecord) (loaded : Image.Loaded) :
    Attempt.Bears (sourced.and spoken) (enter record loaded) := by
  refine Attempt.bears_ask fun (saved : Option ImageRecord) => .after ?_ _ _
  cases saved with
  | none => exact tells_fail rfl
  | some saved =>
      refine (Attempt.bears_lift _).bind fun _ => (Attempt.bears_lift _).bind fun _ => ?_
      exact (Attempt.bears_lift _).bind fun _ => (Attempt.bears_lift _).bind fun _ => Attempt.bears_pure

private theorem layout_tells : Attempt.Bears (starting pending) (layout pending.image) := by
  refine Attempt.bears_ask fun (source : Option LayoutSource) => ?_
  split
  · next own =>
      subst own
      rintro history journal error ⟨reply, later, rfl, rfl, rfl, rfl⟩
      have answered : ⟨.layoutOf pending.image, .error error⟩ ∈
          [⟨.trustRoot, some .own⟩, (⟨.layoutOf pending.image, .error error⟩ : Exchange platform)] :=
        List.mem_cons_of_mem _ (List.mem_singleton_self _)
      exact ⟨fun status carried => ⟨_, answered, error, rfl, carried⟩, .inr (.refused List.mem_cons_self answered)⟩
  · refine .after (starting_of_told (Attempt.bears_report_bind
      (Attempt.bears_checked (told_reported fun fault refused => ?_)))) _ _
    rw [refused]
    exact ⟨fault.loud, List.Subset.refl _⟩

/-- A layout without the flaws of its own maker's making came from the headers. -/
theorem untold_of_excused {asked history : History platform} {layout : Image.Layout} {journal : Journal}
    {error : BootError} (parsing : (Pending.layout pending.image).Follows asked (.ok layout))
    (excused : (excused pending.image layout).holds history journal error) :
    pending.Untold (asked ++ history) error := by
  rcases excused with flawed | ⟨rfl, beyond⟩
  · obtain rfl | ⟨source, -, -, read⟩ := layout_follows parsing
    · exact .flawed (List.mem_append_left _ (List.mem_cons_of_mem _ (List.mem_singleton_self _))) flawed
    · exact absurd flawed (Image.not_untold_of_readLayout (Fault.simplify_eq_ok_iff.mp read.symm))
  · exact .beyond (beyond.mono (List.subset_append_right asked history))

/-- A program that ended with a status was called. -/
theorem entered_mem {loaded : Image.Loaded} {entered : History platform} {status : Status}
    (entering : Attempt.Follows (I := platform) (Attempt.ensuring loaded.release do
      let filePath ← pending.fileName
      enter (pending.record loaded filePath) loaded) entered (.ok status)) :
    ⟨.callEntry loaded.entry loaded.bytes, status⟩ ∈ entered := by
  obtain ⟨body, last, returned, -, rfl⟩ := Attempt.follows_ensuring.mp entering
  obtain ⟨_, -, ⟨⟩⟩ | ⟨filePath, naming, rest, -, swapped, rfl⟩ := Attempt.follows_bind.mp returned
  obtain ⟨-, ⟨⟩⟩ | ⟨saved, _, ⟨⟩, rfl⟩ := enter_follows swapped
  simp

private theorem startValidated_tells (pending : Pending) :
    Attempt.Bears (starting pending) pending.startValidated := by
  refine layout_tells.bindFollowing fun asked layout parsing => ?_
  refine Attempt.Bears.bind ?_ fun loaded => ?_
  · exact (Image.load_tells pending.image layout).mono fun history journal error said =>
      ⟨fun status carried => (said.1 status carried).imp fun _ blamed => ⟨List.mem_append_right _ blamed.1, blamed.2⟩,
        said.2.imp_right (untold_of_excused parsing)⟩
  · refine Attempt.Bears.after (Attempt.Bears.bindFollowing (starting_of_told ?_) fun entered status entering => ?_) _ _
    · exact Attempt.Bears.ensuring (fileName_tells.bind fun filePath => enter_tells _ _)
    · refine (verdict_tells fun failure => ?_).mono fun _ _ _ told => ⟨told.1, .inl told.2⟩
      exact ⟨_, entered_mem entering, rfl, failure⟩

theorem start_tells (pending : Pending) : Attempt.Bears (starting pending) pending.start := by
  refine Attempt.Bears.ensuring ?_
  split
  · exact starting_of_told (startLoaded_tells _)
  · exact startValidated_tells pending

end Pending

end EfiHandoff
