import EfiHandoff.Proofs.Handoff.Session

/-!
# The record of the running loader

A session leaves the record of the running loader as it was. It is overwritten in one place only, right before an
entry point is called, and put back right after, while the memory it describes is still there.
-/

set_option autoImplicit false

namespace EfiHandoff

open Platform

/-- The questions that read or write the record, and the one that lets a program do so. -/
def Platform.Call.TouchesRecord : Platform.Call → Prop
  | .snapshot | .install _ | .restore _ | .callEntry _ _ => True
  | _ => False

def Platform.Call.FreesPool : Platform.Call → Prop
  | .freePool _ => True
  | _ => False

def ImageRecord.LiesIn (record : ImageRecord) (grant : Grant) (size : Nat) : Prop :=
  grant.address.toNat ≤ record.base.toNat ∧
    record.base.toNat + record.size.toNat ≤ grant.address.toNat + size

def Untouched (history : History platform) : Prop :=
  ∀ exchange ∈ history, ¬ Call.TouchesRecord exchange.call

/-- How a session uses the record of the running loader. -/
inductive RecordUse : History platform → Outcome → Prop where
  | untouched {history : History platform} {outcome : Outcome} (quiet : Untouched history) :
      RecordUse history outcome
  | missing {before after : History platform} {pending : Pending}
      (route : pending.route = .validated) (early : Untouched before) (late : Untouched after) :
      RecordUse (before ++ ⟨.snapshot, none⟩ :: after) (.booted pending (.error .noImageRecord))
  /-- The record is swapped for the call. What the new one describes was granted, and is freed later. -/
  | swapped {before after : History platform} {size : Nat} {grant : Grant}
      {record saved : ImageRecord} {entry : UInt64} {bytes : Buffer} {status freed : Status}
      {pending : Pending} {verdict : Except BootError Unit} (route : pending.route = .validated)
      (early : Untouched before) (late : Untouched after)
      (granted : (⟨.allocatePool .data size, .ok grant⟩ : Exchange platform) ∈ before)
      (held : ∀ exchange ∈ before, ¬ Call.FreesPool exchange.call)
      (inside : record.LiesIn grant size) :
      RecordUse (before ++ ⟨.snapshot, some saved⟩ :: ⟨.install record, ()⟩ ::
        ⟨.callEntry entry bytes, status⟩ :: ⟨.restore saved, ()⟩ ::
        ⟨.freePool grant.address, freed⟩ :: after) (.booted pending verdict)

section Use

variable {limit : MemoryLimit} {settings : Settings} {history : History platform} {outcome : Outcome}
  {pending : Pending}

theorem Untouched.append {first second : History platform} (early : Untouched first)
    (late : Untouched second) : Untouched (first ++ second) :=
  List.forall_mem_append.mpr ⟨early, late⟩

private theorem Platform.Call.Prepares.not_touchesRecord {call : Platform.Call} (prepares : call.Prepares) :
    ¬ call.TouchesRecord ∧ ¬ call.FreesPool := by
  cases call <;> first | exact prepares.elim | exact ⟨id, id⟩

theorem Preparation.untouched {arguments : List (List Char)} {verdict : Except BootError Pending}
    (preparation : Preparation limit settings arguments history verdict) : Untouched history :=
  fun exchange member => (preparation.prepares exchange member).not_touchesRecord.1

theorem Pending.Released.untouched (released : pending.Released history) : Untouched history :=
  fun exchange member => (released.prepares exchange member).not_touchesRecord.1

private theorem Pending.layout_untouched {image : Buffer} {verdict : Except BootError Image.Layout}
    (follows : (layout image).Follows history verdict) :
    Untouched history ∧ ∀ exchange ∈ history, ¬ Call.FreesPool exchange.call := by
  obtain rfl | ⟨source, -, rfl, -⟩ := layout_follows follows <;>
    simp [Untouched, Call.TouchesRecord, Call.FreesPool]

theorem Image.Loading.untouched {layout : Image.Layout} {verdict : Except BootError Image.Loaded}
    (loading : Image.Loading layout history verdict) : Untouched history := by
  cases loading <;> simp [Untouched, Call.TouchesRecord]

theorem Image.Loading.record {layout : Image.Layout} {loaded : Image.Loaded}
    (loading : Image.Loading layout history (.ok loaded)) (pending : Pending) (filePath : Bytes) :
    ∃ size grant, history = [⟨.allocatePool .data size, .ok grant⟩] ∧
      loaded.window.buffer.address = grant.address ∧
      (pending.record loaded filePath).LiesIn grant size := by
  cases loading with
  | @loaded size grant _ requested chosen =>
      obtain ⟨buffer, length, room, -⟩ := Image.Window.choose_ok requested chosen
      have address := congrArg PoolBuffer.address buffer
      refine ⟨size, grant, rfl, address, ?_⟩
      have base : loaded.base.toNat = grant.address.toNat + loaded.window.offset :=
        Image.Window.base_toNat requested chosen
      have extent : loaded.size.toNat = loaded.window.size := by
        unfold Image.Loaded.size
        rw [length, UInt64.ofNat_toNat]
      constructor
      · change grant.address.toNat ≤ loaded.base.toNat
        omega
      · change loaded.base.toNat + loaded.size.toNat ≤ grant.address.toNat + size
        omega

theorem Pending.ValidatedStart.recordUse {verdict : Except BootError Unit}
    (started : pending.ValidatedStart history verdict) (route : pending.route = .validated)
    {first last : History platform} (early : Untouched first)
    (held : ∀ exchange ∈ first, ¬ Call.FreesPool exchange.call) (late : Untouched last) :
    RecordUse (first ++ (history ++ last)) (.booted pending verdict) := by
  cases started with
  | unparsed failed => exact .untouched (early.append ((layout_untouched failed).1.append late))
  | unloaded parsed failed =>
      have body := (layout_untouched parsed).1.append (Image.load_follows failed).untouched
      exact .untouched (early.append (body.append late))
  | @unnamed _ _ _ loaded freed _ parsed loads =>
      have freeing : Untouched [⟨.freePool loaded.window.buffer.address, freed⟩] := by
        simp [Untouched, Call.TouchesRecord]
      have body := (layout_untouched parsed).1.append
        ((Image.load_follows loads).untouched.append freeing)
      exact .untouched (early.append (body.append late))
  | @recordless parsing loading _ loaded freed parsed loads =>
      have before := early.append ((layout_untouched parsed).1.append
        (Image.load_follows loads).untouched)
      have after : Untouched (⟨.freePool loaded.window.buffer.address, freed⟩ :: last) :=
        List.forall_mem_cons.mpr ⟨id, late⟩
      have use := RecordUse.missing route before after
      simpa only [List.append_assoc, List.cons_append, List.nil_append] using use
  | @entered parsing loading _ loaded filePath saved status freed parsed loads named =>
      obtain ⟨size, grant, rfl, address, inside⟩ :=
        (Image.load_follows loads).record pending filePath
      have before := early.append ((layout_untouched parsed).1.append
        (Image.load_follows loads).untouched)
      have unfreed : ∀ exchange ∈ first ++ (parsing ++
          [(⟨.allocatePool .data size, .ok grant⟩ : Exchange platform)]),
          ¬ Call.FreesPool exchange.call :=
        List.forall_mem_append.mpr ⟨held, List.forall_mem_append.mpr
          ⟨(layout_untouched parsed).2, by simp [Call.FreesPool]⟩⟩
      have granted : (⟨.allocatePool .data size, .ok grant⟩ : Exchange platform) ∈
          first ++ (parsing ++ [⟨.allocatePool .data size, .ok grant⟩]) := by
        simp only [List.mem_append, List.mem_singleton, or_true]
      have use : RecordUse _ (.booted pending (verdictOn status "")) :=
        @RecordUse.swapped _ _ _ _ _ saved loaded.entry loaded.bytes status freed _ _ route before late
          granted unfreed inside
      rw [address]
      simpa only [List.append_assoc, List.cons_append, List.nil_append] using use

theorem Session.recordUse {arguments : List (List Char)} {finish : Finish}
    (session : Session limit settings arguments finish history outcome) : RecordUse history outcome := by
  cases session with
  | refused prepared => exact .untouched prepared.untouched
  | dropped prepared released => exact .untouched (prepared.untouched.append released.untouched)
  | booted prepared started =>
      cases started with
      | firmware =>
          exact .untouched (prepared.untouched.append (by simp [Untouched, Call.TouchesRecord]))
      | validated route started =>
          exact started.recordUse route prepared.untouched
            (fun exchange member => (prepared.prepares exchange member).not_touchesRecord.2)
            (by simp [Untouched, Call.TouchesRecord])

end Use

section Configured

variable {limit : MemoryLimit} {settings : Settings} {history : History platform} {outcome : Outcome}
  {pending : Pending}

def Platform.Call.Configures (image : Handle) : Platform.Call → Prop
  | .configureImage target _ _ => target = image
  | _ => False

/-- Whatever a history configures, the firmware has loaded before. -/
def ConfiguresLoaded (history : History platform) : Prop :=
  ∀ image, ∀ exchange ∈ history, Call.Configures image exchange.call →
    ∃ path bytes, (⟨.loadImage path bytes, .ok image⟩ : Exchange platform) ∈ history

def Unconfigured (history : History platform) : Prop :=
  ∀ image, ∀ exchange ∈ history, ¬ Call.Configures image exchange.call

theorem Unconfigured.append {first second : History platform} (early : Unconfigured first)
    (late : Unconfigured second) : Unconfigured (first ++ second) :=
  fun image => List.forall_mem_append.mpr ⟨early image, late image⟩

private theorem Unconfigured.configuresLoaded (quiet : Unconfigured history) : ConfiguresLoaded history :=
  fun image exchange member configures => absurd configures (quiet image exchange member)

theorem ConfiguresLoaded.append {first second : History platform} (early : ConfiguresLoaded first)
    (late : ConfiguresLoaded second) : ConfiguresLoaded (first ++ second) := by
  intro image exchange member configures
  rcases List.mem_append.mp member with before | behind
  · obtain ⟨path, bytes, loaded⟩ := early image exchange before configures
    exact ⟨path, bytes, List.mem_append_left _ loaded⟩
  · obtain ⟨path, bytes, loaded⟩ := late image exchange behind configures
    exact ⟨path, bytes, List.mem_append_right _ loaded⟩

private theorem Platform.Call.ReadsFile.not_configures {call : Platform.Call} (reads : call.ReadsFile)
    (image : Handle) : ¬ call.Configures image := by
  cases call <;> first | exact reads.elim | exact id

private theorem Platform.Call.Enters.not_configures {call : Platform.Call} (enters : call.Enters)
    (image : Handle) : ¬ call.Configures image := by
  cases call <;> first | exact enters.elim | exact id

private theorem fetch_unconfigured {name : List Char} {verdict : Except BootError (Handle × Bytes × PageRange)}
    (fetched : (fetch limit settings name).Follows history verdict) : Unconfigured history :=
  fun image exchange member =>
    ((fetch_follows fetched).reads exchange member).not_configures image

theorem Gate.unconfigured {path : Bytes} {image : Buffer} {verdict : Except BootError Route}
    (gate : Gate settings path image history verdict) : Unconfigured history := by
  cases gate <;> simp [Unconfigured, Call.Configures]

theorem Pending.Released.unconfigured (released : pending.Released history) :
    Unconfigured history := by
  cases released <;> simp [Unconfigured, Call.Configures]

private theorem unconfigured_freePages {address : UInt64} {pages : Nat} {freed : Status} :
    Unconfigured [⟨.freePages address pages, freed⟩] := by
  simp [Unconfigured, Call.Configures]

private theorem Gate.configuresLoaded {path : Bytes} {image : Buffer} {handle device : Handle}
    {options : Option (List UInt16)} {reply : Except Status Unit}
    (gate : Gate settings path image history (.ok (.firmware handle))) :
    ConfiguresLoaded (history ++ [⟨.configureImage handle device options, reply⟩]) := by
  cases gate with
  | loaded =>
      intro target exchange member configures
      simp only [List.mem_append, List.mem_cons, List.not_mem_nil, or_false] at member
      rcases member with (rfl | rfl) | rfl
      · exact configures.elim
      · exact configures.elim
      · obtain rfl : handle = target := configures
        exact ⟨path, image, by simp⟩

theorem Preparation.configuresLoaded {arguments : List (List Char)}
    {verdict : Except BootError Pending}
    (preparation : Preparation limit settings arguments history verdict) : ConfiguresLoaded history := by
  have empty : ConfiguresLoaded [] := fun _ _ member => absurd member List.not_mem_nil
  cases preparation with
  | nameless => exact empty
  | unencoded => exact empty
  | unread failed => exact (fetch_unconfigured failed).configuresLoaded
  | unselected fetched =>
      exact ((fetch_unconfigured fetched).append unconfigured_freePages).configuresLoaded
  | stopped fetched _ gate =>
      exact ((fetch_unconfigured fetched).append
        (gate.unconfigured.append unconfigured_freePages)).configuresLoaded
  | @unconfigured _ _ _ second _ _ _ _ fetched _ route gate released =>
      rw [route] at gate
      rw [List.append_cons second]
      exact (fetch_unconfigured fetched).configuresLoaded.append
        (gate.configuresLoaded.append released.unconfigured.configuresLoaded)
  | firmware fetched _ route gate =>
      rw [route] at gate
      exact (fetch_unconfigured fetched).configuresLoaded.append gate.configuresLoaded
  | validated fetched _ _ gate =>
      exact ((fetch_unconfigured fetched).append gate.unconfigured).configuresLoaded

theorem Session.configuresLoaded {arguments : List (List Char)} {finish : Finish}
    (session : Session limit settings arguments finish history outcome) : ConfiguresLoaded history := by
  cases session with
  | refused prepared => exact prepared.configuresLoaded
  | dropped prepared released =>
      exact prepared.configuresLoaded.append released.unconfigured.configuresLoaded
  | booted prepared started =>
      refine prepared.configuresLoaded.append (Unconfigured.configuresLoaded ?_)
      cases started with
      | firmware => simp [Unconfigured, Call.Configures]
      | validated route started =>
          exact Unconfigured.append
            (fun image exchange member => (started.enters exchange member).not_configures image)
            unconfigured_freePages

end Configured

def Platform.Call.AltersRecord : Platform.Call → Prop
  | .install _ | .restore _ | .callEntry _ _ => True
  | _ => False

/-- What is asked of surroundings that hold the record of the running loader, whose handle is `own`. An entry
point may do what it likes to the record as long as there is one left. -/
structure KeepsRecord {σ : Type} (machine : Machine platform σ) (own : Handle)
    (record : σ → Option ImageRecord) : Prop where
  told : ∀ state, (machine.answer .snapshot state).1 = record state
  installed : ∀ given state, (record state).isSome →
    record (machine.answer (.install given) state).2 = some given
  restored : ∀ saved state, (record state).isSome →
    record (machine.answer (.restore saved) state).2 = some saved
  entered : ∀ entry image state, (record state).isSome →
    (record (machine.answer (.callEntry entry image) state).2).isSome
  fresh : ∀ path image state, (machine.answer (.loadImage path image) state).1 ≠ .ok own
  other : ∀ call state, ¬ call.AltersRecord → ¬ call.Configures own →
    record (machine.answer call state).2 = record state

/-- A run leaves the record as it was, and in between the record differs only after an overwriting that is yet to be
undone. -/
structure PreservesRecord {σ α : Type} (machine : Machine platform σ)
    (record : σ → Option ImageRecord) (program : Act α) (state : σ) : Prop where
  kept : record (program.run machine state).state = record state
  between : ∀ {before after : History platform}, program.history machine state = before ++ after →
    record (machine.after state before) ≠ record state →
      (∃ installing, ⟨.install installing, ()⟩ ∈ before) ∧ ∃ saved, ⟨.restore saved, ()⟩ ∈ after

section Keeping

variable {σ : Type} {machine : Machine platform σ} {own : Handle} {record : σ → Option ImageRecord}
  {state : σ} {history : History platform} {outcome : Outcome}

def Unaltered (own : Handle) (history : History platform) : Prop :=
  ∀ exchange ∈ history, ¬ Call.AltersRecord exchange.call ∧ ¬ Call.Configures own exchange.call

private theorem Platform.Call.AltersRecord.touches {call : Platform.Call} (alters : call.AltersRecord) :
    call.TouchesRecord := by
  cases call <;> first | exact alters.elim | trivial

private theorem Untouched.unaltered (quiet : Untouched history)
    (foreign : ∀ exchange ∈ history, ¬ Call.Configures own exchange.call) : Unaltered own history :=
  fun exchange member => ⟨fun alters => quiet exchange member alters.touches, foreign exchange member⟩

private theorem KeepsRecord.unaltered (keeps : KeepsRecord machine own record)
    (quiet : Unaltered own history) : record (machine.after state history) = record state := by
  induction history generalizing state with
  | nil => rfl
  | cons exchange later ih =>
      obtain ⟨⟨unaltering, foreign⟩, rest⟩ := List.forall_mem_cons.mp quiet
      rw [Machine.after_cons, ih rest]
      exact keeps.other exchange.call state unaltering foreign

private theorem KeepsRecord.after_swap (keeps : KeepsRecord machine own record)
    {installing saved : ImageRecord} {entry : UInt64} {bytes : Buffer} {status : Status}
    (began : record state = some saved) :
    record (machine.after state [⟨.snapshot, some saved⟩, ⟨.install installing, ()⟩,
      ⟨.callEntry entry bytes, status⟩, ⟨.restore saved, ()⟩]) = some saved := by
  have taken : record (machine.answer .snapshot state).2 = some saved :=
    (keeps.other .snapshot state id id).trans began
  have installed := keeps.installed installing _ (Option.isSome_of_eq_some taken)
  have entered := keeps.entered entry bytes _ (Option.isSome_of_eq_some installed)
  exact keeps.restored saved _ entered

/-- In a swap the record differs only between the two writes, which is where the entry point runs. -/
theorem KeepsRecord.swapped (keeps : KeepsRecord machine own record)
    {first last : History platform} {installing saved : ImageRecord} {entry : UInt64}
    {bytes : Buffer} {status : Status} (early : Unaltered own first) (late : Unaltered own last)
    (gives : machine.Gives state (first ++ ⟨.snapshot, some saved⟩ :: ⟨.install installing, ()⟩ ::
      ⟨.callEntry entry bytes, status⟩ :: ⟨.restore saved, ()⟩ :: last))
    {before after : History platform}
    (cut : before ++ after = first ++ ⟨.snapshot, some saved⟩ :: ⟨.install installing, ()⟩ ::
      ⟨.callEntry entry bytes, status⟩ :: ⟨.restore saved, ()⟩ :: last)
    (changed : record (machine.after state before) ≠ record state) :
    ⟨.install installing, ()⟩ ∈ before ∧ ⟨.restore saved, ()⟩ ∈ after := by
  have snapshot : Unaltered own [⟨.snapshot, some saved⟩] := by
    simp [Unaltered, Call.AltersRecord, Call.Configures]
  have began : record state = some saved := by
    have told := (Machine.gives_append.mp gives).2.1
    rw [keeps.told, keeps.unaltered early] at told
    exact told.symm
  constructor
  · rw [List.append_cons first] at cut
    obtain ⟨middle, whole, -⟩ | ⟨middle, rfl, -⟩ := split_cases cut
    · have quiet : Unaltered own (before ++ middle) :=
        whole ▸ List.forall_mem_append.mpr ⟨early, snapshot⟩
      exact absurd (keeps.unaltered (List.forall_mem_append.mp quiet).1) changed
    · exact List.mem_append_right _ List.mem_cons_self
  · rw [List.append_cons first, List.append_cons (first ++ _), List.append_cons (first ++ _ ++ _)] at cut
    obtain ⟨middle, -, rfl⟩ | ⟨middle, rfl, rfl⟩ := split_cases cut
    · exact List.mem_append_right _ List.mem_cons_self
    · refine absurd ?_ changed
      have quiet := (List.forall_mem_append.mp late).1
      rw [Machine.after_append, Machine.after_cons, keeps.unaltered quiet, began]
      simp only [Machine.after_append]
      exact keeps.after_swap ((keeps.unaltered early).trans began)

theorem KeepsRecord.foreign (keeps : KeepsRecord machine own record)
    (configures : ConfiguresLoaded history) (gives : machine.Gives state history) :
    ∀ exchange ∈ history, ¬ Call.Configures own exchange.call := by
  intro exchange member targets
  obtain ⟨path, bytes, loaded⟩ := configures own exchange member targets
  obtain ⟨found, same⟩ := gives.mem loaded
  exact keeps.fresh path bytes found same.symm

/-- The record differs from what it was only between its overwriting and its restoring. -/
theorem KeepsRecord.changed (keeps : KeepsRecord machine own record)
    (use : RecordUse history outcome) (configures : ConfiguresLoaded history)
    (gives : machine.Gives state history) {before after : History platform}
    (cut : history = before ++ after)
    (changed : record (machine.after state before) ≠ record state) :
    (∃ installing, ⟨.install installing, ()⟩ ∈ before) ∧ ∃ saved, ⟨.restore saved, ()⟩ ∈ after := by
  have foreign := keeps.foreign configures gives
  cases use with
  | untouched quiet =>
      have unaltered := quiet.unaltered foreign
      rw [cut] at unaltered
      exact absurd (keeps.unaltered (List.forall_mem_append.mp unaltered).1) changed
  | @missing first last _ _ early late =>
      have unaltered : Unaltered own (first ++ ⟨.snapshot, none⟩ :: last) := by
        intro exchange member
        refine ⟨?_, foreign exchange member⟩
        rcases List.mem_append.mp member with front | back
        · exact fun alters => early exchange front alters.touches
        · rcases List.mem_cons.mp back with rfl | back
          · exact id
          · exact fun alters => late exchange back alters.touches
      rw [cut] at unaltered
      exact absurd (keeps.unaltered (List.forall_mem_append.mp unaltered).1) changed
  | @swapped first last _ grant installing saved entry bytes status freed _ _ _ early late =>
      obtain ⟨front, rest⟩ := List.forall_mem_append.mp foreign
      have behind : Unaltered own (⟨.freePool grant.address, freed⟩ :: last) := by
        refine Untouched.unaltered (List.forall_mem_cons.mpr ⟨id, late⟩) fun exchange member => ?_
        exact rest exchange (by simp [List.mem_cons.mp member])
      obtain ⟨installs, restores⟩ :=
        keeps.swapped (early.unaltered front) behind gives cut.symm changed
      exact ⟨⟨installing, installs⟩, saved, restores⟩

theorem KeepsRecord.session (keeps : KeepsRecord machine own record) (limit : MemoryLimit) (settings : Settings)
    (arguments : List (List Char)) (finish : Finish) (state : σ) :
    PreservesRecord machine record (session limit settings arguments finish) state := by
  have follows := Program.follows_history machine (EfiHandoff.session limit settings arguments finish) state
  have gives := Machine.gives_history machine (EfiHandoff.session limit settings arguments finish) state
  have went := session_follows follows
  refine ⟨Classical.byContradiction fun changed => ?_,
    fun cut => keeps.changed went.recordUse went.configuresLoaded gives cut⟩
  rw [← Machine.after_history] at changed
  obtain ⟨-, saved, late⟩ := keeps.changed went.recordUse went.configuresLoaded gives
    (List.append_nil _).symm changed
  exact List.not_mem_nil late

end Keeping

end EfiHandoff
