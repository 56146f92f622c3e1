import EfiHandoff.Proofs.DevicePath.FileNames
import EfiHandoff.Proofs.Handoff.SecureBoot
import EfiHandoff.Proofs.Image.Contents
import EfiHandoff.Proofs.Image.Failures

/-!
# What an entered image finds

The start of a validated handoff calls one entry point, if it has a layout, an image in memory and a record to
swap, and none otherwise. What the image finds then was put together from its file, its device and its arguments.
-/

set_option autoImplicit false

namespace EfiHandoff

open Platform

section Prepared

variable {limit : MemoryLimit} {settings : Settings} {name : List Char} {arguments : List (List Char)}
  {history : History platform} {pending : Pending}

theorem prepare_options
    (follows : (prepare settings (name :: arguments) limit).Follows history (.ok pending)) :
    LoadOptions.encode limit arguments = .ok pending.options := by
  obtain ⟨_, _, ⟨⟩⟩ | ⟨options, _, _, encoded, reading, -⟩ := Attempt.follows_bind.mp follows
  obtain ⟨-, same⟩ := Attempt.follows_ofChecked.mp encoded
  obtain ⟨_, _, ⟨⟩⟩ | ⟨⟨device, path, file⟩, _, _, -, routing, -⟩ := Attempt.follows_bind.mp reading
  obtain ⟨_, _, ⟨⟩⟩ | ⟨⟨image, route⟩, _, _, -, configuring, -⟩ := Attempt.follows_bind.mp routing
  obtain ⟨-, -, ⟨⟩⟩ | ⟨_, -, ⟨-, ⟨⟩⟩ | ⟨_, _, -, ⟨⟩, -⟩⟩ :=
    configured_follows { file, image, path, options, device, route } configuring
  all_goals exact Fault.simplify_eq_ok_iff.mp same.symm

theorem prepare_device
    (follows : (prepare settings (name :: arguments) limit).Follows history (.ok pending)) :
    ∃ devicePath,
      (⟨.rootDevice, some ⟨pending.device, some devicePath⟩⟩ : Exchange platform) ∈ history ∧
        DevicePath.ofFile limit devicePath name = .ok pending.path := by
  cases prepare_follows follows with
  | firmware fetched | validated fetched =>
      cases fetch_follows fetched with
      | @fetched _ _ devicePath _ _ _ built => exact ⟨devicePath, by simp, built⟩

theorem prepare_fileName
    (follows : (prepare settings (name :: arguments) limit).Follows history (.ok pending)) :
    ∃ tail, DevicePath.IsFileTail pending.path tail ∧
      ∀ later verdict, pending.fileName.Follows later verdict → verdict = .ok tail := by
  obtain ⟨devicePath, -, built⟩ := prepare_device follows
  obtain ⟨nodes, placed, named, written⟩ := DevicePath.ofFile_ok built
  obtain ⟨offset, found, tail⟩ := DevicePath.firstFilePath_placed placed named written
  refine ⟨_, tail, ?_⟩
  intro later verdict naming
  unfold Pending.fileName at naming
  rw [found] at naming
  exact (Attempt.follows_pure.mp naming).2

end Prepared

/-- A start can come to its call: there is a layout, the image is loaded, and there is a record to swap. -/
def Ready {σ : Type} (machine : Machine platform σ) (state : σ) (image : Buffer) (layout : Image.Layout)
    (loaded : Image.Loaded) (saved : ImageRecord) : Prop :=
  let parsing := (Pending.layout image).run.run machine state
  let loading := (Image.load image layout).run.run machine parsing.state
  parsing.result = .ok layout ∧ loading.result = .ok loaded ∧
    (machine.answer .snapshot loading.state).1 = some saved

/-- What a record says about an image that was prepared from a file on a device. -/
structure Describes (limit : MemoryLimit) (preparation : History platform) (name : List Char)
    (arguments : List (List Char)) (path : Bytes) (layout : Image.Layout) (loaded : Image.Loaded)
    (record : ImageRecord) : Prop where
  base : record.base = loaded.base
  size : record.size = layout.imageSize
  device : ∃ devicePath,
    (⟨.rootDevice, some ⟨record.device, some devicePath⟩⟩ : Exchange platform) ∈ preparation ∧
      DevicePath.ofFile limit devicePath name = .ok path
  options : LoadOptions.encode limit arguments = .ok record.options
  optionsSize : ∀ units, record.options = some units → units.length < 2 ^ 31 →
    record.optionsSize.toNat = 2 * units.length
  bare : arguments = [] → record.options = none ∧ record.optionsSize = 0
  filePath : ∃ tail, record.filePath = some tail ∧ DevicePath.IsFileTail path tail

/-- Overwriting a record that was there puts the new one in its place. -/
def StoresRecord {σ : Type} (machine : Machine platform σ) (record : σ → Option ImageRecord) : Prop :=
  ∀ state given, (machine.answer .snapshot state).1.isSome →
    record (machine.answer (.install given) (machine.answer .snapshot state).2).2 = some given

structure EntersImage {σ : Type} (machine : Machine platform σ) (record : σ → Option ImageRecord)
    (limit : MemoryLimit) (preparation : History platform) (name : List Char) (arguments : List (List Char))
    (pending : Pending) (state : σ) (history : History platform) (verdict : Except BootError Unit) : Prop where
  once : (history.filterMap entryCall?).length ≤ 1
  ready : (∃ exchange ∈ history, Call.CallsEntry exchange.call) ↔
    ∃ layout loaded saved, Ready machine state pending.image layout loaded saved
  named : verdict = .error .noFilePathNode →
    (⟨.layoutOf pending.image, .error .noFilePathNode⟩ : Exchange platform) ∈ history
  entered : ∀ {before after : History platform} {entry : UInt64} {bytes : Buffer} {status : Status},
    history = before ++ ⟨.callEntry entry bytes, status⟩ :: after →
      ∃ layout loaded saved found, Ready machine state pending.image layout loaded saved ∧
        (∃ size grant, (⟨.allocatePool .data size, .ok grant⟩ : Exchange platform) ∈ before ∧
          Image.LaidOut pending.image layout size grant loaded) ∧
        entry = loaded.entry ∧ bytes = loaded.bytes ∧
        record (machine.after state before) = some found ∧
        Describes limit preparation name arguments pending.path layout loaded found ∧
        verdict = if status.isSuccess then .ok () else .error (.programFailed status "")

section Readiness

variable {σ : Type} {machine : Machine platform σ} {state : σ} {image : Buffer} {layout : Image.Layout}
  {loaded : Image.Loaded} {saved : ImageRecord} {first second later : History platform}

theorem Ready.parsed (ready : Ready machine state image layout loaded saved)
    {outcome : Except BootError Image.Layout} (parses : (Pending.layout image).Follows first outcome)
    (gives : machine.Gives state first) : outcome = .ok layout := by
  have ran := (Machine.run_of_gives parses gives).1
  exact ran.symm.trans ready.1

private theorem loading_ran {outcome : Except BootError Image.Loaded}
    (parses : (Pending.layout image).Follows first (.ok layout))
    (loads : (Image.load image layout).Follows second outcome)
    (gives : machine.Gives state (first ++ second)) :
    let parsing := (Pending.layout image).run.run machine state
    let loading := (Image.load image layout).run.run machine parsing.state
    loading.result = outcome ∧ loading.state = machine.after state (first ++ second) := by
  obtain ⟨early, late⟩ := Machine.gives_append.mp gives
  have reached := (Machine.run_of_gives parses early).2
  rw [← reached] at late
  rw [Machine.after_append, ← reached]
  exact Machine.run_of_gives loads late

theorem Ready.loading (ready : Ready machine state image layout loaded saved)
    {outcome : Except BootError Image.Loaded} (parses : (Pending.layout image).Follows first (.ok layout))
    (loads : (Image.load image layout).Follows second outcome)
    (gives : machine.Gives state (first ++ second)) : outcome = .ok loaded := by
  have ran := (loading_ran parses loads gives).1
  exact ran.symm.trans ready.2.1

theorem Ready.snapshot (ready : Ready machine state image layout loaded saved) {reply : Option ImageRecord}
    (parses : (Pending.layout image).Follows first (.ok layout))
    (loads : (Image.load image layout).Follows second (.ok loaded))
    (gives : machine.Gives state (first ++ (second ++ ⟨.snapshot, reply⟩ :: later))) :
    reply = some saved := by
  rw [← List.append_assoc] at gives
  obtain ⟨early, told, -⟩ := Machine.gives_append.mp gives
  have found := ready.2.2
  rw [(loading_ran parses loads early).2] at found
  exact told.trans found

private theorem ready_of_gives (parses : (Pending.layout image).Follows first (.ok layout))
    (loads : (Image.load image layout).Follows second (.ok loaded))
    (gives : machine.Gives state (first ++ (second ++ ⟨.snapshot, some saved⟩ :: later))) :
    Ready machine state image layout loaded saved := by
  have parsed := (Machine.run_of_gives parses (Machine.gives_append.mp gives).1).1
  rw [← List.append_assoc] at gives
  obtain ⟨early, told, -⟩ := Machine.gives_append.mp gives
  have ran := loading_ran parses loads early
  refine ⟨parsed, ran.1, ?_⟩
  rw [ran.2]
  exact told.symm

end Readiness

/-- A start lacks something and calls no entry point, or it swaps the record and calls that of its image. -/
inductive EntryUse {σ : Type} (machine : Machine platform σ) (state : σ) (pending : Pending) :
    History platform → Except BootError Unit → Prop where
  | unready {history : History platform} {verdict : Except BootError Unit}
      (quiet : ∀ exchange ∈ history, ¬ Call.CallsEntry exchange.call)
      (missing : ∀ layout loaded saved, ¬ Ready machine state pending.image layout loaded saved)
      (blamed : verdict = .error .noFilePathNode →
        (⟨.layoutOf pending.image, .error .noFilePathNode⟩ : Exchange platform) ∈ history) :
      EntryUse machine state pending history verdict
  | called {before after : History platform} {layout : Image.Layout} {size : Nat} {grant : Grant}
      {loaded : Image.Loaded} {saved : ImageRecord} {filePath : Bytes} {status : Status}
      (ready : Ready machine state pending.image layout loaded saved)
      (granted : (⟨.allocatePool .data size, .ok grant⟩ : Exchange platform) ∈ before)
      (laid : Image.LaidOut pending.image layout size grant loaded)
      (naming : pending.fileName.Follows [] (.ok filePath))
      (early : ∀ exchange ∈ before, ¬ Call.CallsEntry exchange.call)
      (late : ∀ exchange ∈ after, ¬ Call.CallsEntry exchange.call) :
      EntryUse machine state pending
        (before ++ ⟨.snapshot, some saved⟩ :: ⟨.install (pending.record loaded filePath), ()⟩ ::
          ⟨.callEntry loaded.entry loaded.bytes, status⟩ :: after)
        (Pending.verdictOn status "")

section Use

variable {σ : Type} {machine : Machine platform σ} {state : σ} {pending : Pending}
  {history rest : History platform} {verdict : Except BootError Unit}

private theorem not_blamesImage : ¬ BootError.noFilePathNode.BlamesImage := by
  simp [BootError.BlamesImage, BootError.errorClass]

private theorem verdictOn_ne {status : Status} {text : String} :
    Pending.verdictOn status text ≠ .error .noFilePathNode := by
  unfold Pending.verdictOn
  split <;> simp

/-- Only a trust root that parses images itself can blame the device path for one it did not parse. -/
theorem Pending.layout_blames {image : Buffer} {error : BootError}
    (failed : (Pending.layout image).Follows history (.error error)) :
    error.BlamesImage ∨ (⟨.layoutOf image, .error error⟩ : Exchange platform) ∈ history := by
  obtain rfl | ⟨source, -, -, same⟩ := layout_follows failed
  · exact .inr (by simp)
  · left
    cases read : Image.readLayout image with
    | ok layout =>
        rw [read] at same
        cases same
    | error fault =>
        rw [read] at same
        cases same
        exact fault.blamesImage

private theorem Pending.ValidatedStart.entryUse (started : pending.ValidatedStart history verdict)
    (gives : machine.Gives state (history ++ rest))
    (named : ∃ tail, ∀ later verdict, pending.fileName.Follows later verdict → verdict = .ok tail)
    (quiet : ∀ exchange ∈ rest, ¬ Call.CallsEntry exchange.call) :
    EntryUse machine state pending (history ++ rest) verdict := by
  cases started with
  | unparsed failed =>
      refine .unready ?_ ?_ ?_
      · exact List.forall_mem_append.mpr ⟨layout_not_callsEntry failed, quiet⟩
      · intro layout loaded saved ready
        cases ready.parsed failed (Machine.gives_append.mp gives).1
      · intro same
        cases same
        rcases layout_blames failed with blames | asked
        · exact absurd blames not_blamesImage
        · exact List.mem_append_left _ asked
  | unloaded parses failed =>
      have told := (Machine.gives_append.mp gives).1
      refine .unready ?_ ?_ ?_
      · exact List.forall_mem_append.mpr ⟨List.forall_mem_append.mpr
          ⟨layout_not_callsEntry parses, (Image.load_follows failed).not_callsEntry⟩, quiet⟩
      · intro layout loaded saved ready
        cases ready.parsed parses (Machine.gives_append.mp told).1
        cases ready.loading parses failed told
      · intro same
        cases same
        exact absurd (Image.load_failsOnly _ _ failed) not_blamesImage
  | unnamed parses loads failed =>
      obtain ⟨tail, names⟩ := named
      cases names _ _ failed
  | recordless parses loads =>
      have told := (Machine.gives_append.mp gives).1
      refine .unready ?_ ?_ nofun
      · refine List.forall_mem_append.mpr ⟨?_, quiet⟩
        intro exchange member calls
        have late := callsEntry_late parses loads member calls
        simp only [List.mem_cons, List.not_mem_nil, or_false] at late
        rcases late with rfl | rfl <;> exact calls
      · intro layout loaded saved ready
        cases ready.parsed parses (Machine.gives_append.mp told).1
        have loading := told
        rw [← List.append_assoc] at loading
        cases ready.loading parses loads (Machine.gives_append.mp loading).1
        cases ready.snapshot parses loads told
  | @entered parsing loading layout loaded filePath saved status freed parses loads naming =>
      have told := (Machine.gives_append.mp gives).1
      obtain ⟨size, grant, rfl, laid⟩ := Image.load_laidOut loads
      have ready := ready_of_gives parses loads told
      have early : ∀ exchange ∈ parsing ++ [(⟨.allocatePool .data size, .ok grant⟩ : Exchange platform)],
          ¬ Call.CallsEntry exchange.call :=
        List.forall_mem_append.mpr ⟨layout_not_callsEntry parses, by simp [Call.CallsEntry]⟩
      have late : ∀ exchange ∈ (⟨.restore saved, ()⟩ : Exchange platform) ::
          ⟨.freePool loaded.window.buffer.address, freed⟩ :: rest, ¬ Call.CallsEntry exchange.call :=
        List.forall_mem_cons.mpr ⟨id, List.forall_mem_cons.mpr ⟨id, quiet⟩⟩
      have use := @EntryUse.called _ machine _ pending _ _ _ _ _ _ saved _ status ready (by simp) laid
        naming early late
      simpa only [List.append_assoc, List.cons_append, List.nil_append] using use

private theorem entryCall?_eq_none {exchange : Exchange platform} (quiet : ¬ Call.CallsEntry exchange.call) :
    entryCall? exchange = none := by
  obtain ⟨call, reply⟩ := exchange
  cases call <;> first | rfl | exact absurd trivial quiet

private theorem entryCalls_eq_nil (quiet : ∀ exchange ∈ history, ¬ Call.CallsEntry exchange.call) :
    history.filterMap entryCall? = [] :=
  List.filterMap_eq_nil_iff.mpr fun exchange member => entryCall?_eq_none (quiet exchange member)

variable {limit : MemoryLimit} {settings : Settings} {name : List Char} {arguments : List (List Char)}
  {preparation : History platform}

private theorem Pending.record_describes {layout : Image.Layout} {loaded : Image.Loaded} {filePath : Bytes}
    (prepared : (prepare settings (name :: arguments) limit).Follows preparation (.ok pending))
    (size : loaded.size = layout.imageSize) (naming : pending.fileName.Follows [] (.ok filePath)) :
    Describes limit preparation name arguments pending.path layout loaded (pending.record loaded filePath) where
  base := rfl
  size := size
  device := prepare_device prepared
  options := prepare_options prepared
  optionsSize := by
    intro units given small
    have options : pending.options = some units := given
    unfold Pending.record
    dsimp only
    rw [options, Option.map_some, Option.getD_some, LoadOptions.sizeInBytes, UInt32.toNat_ofNat']
    omega
  bare := by
    intro empty
    have options := prepare_options prepared
    rw [empty] at options
    have absent : pending.options = none := (Except.ok.inj options).symm
    unfold Pending.record
    dsimp only
    rw [absent]
    exact ⟨rfl, rfl⟩
  filePath := by
    obtain ⟨tail, names, same⟩ := prepare_fileName prepared
    cases same _ _ naming
    exact ⟨filePath, rfl, names⟩

private theorem EntryUse.entersImage {record : σ → Option ImageRecord}
    (use : EntryUse machine state pending history verdict) (gives : machine.Gives state history)
    (stores : StoresRecord machine record)
    (prepared : (prepare settings (name :: arguments) limit).Follows preparation (.ok pending)) :
    EntersImage machine record limit preparation name arguments pending state history verdict := by
  cases use with
  | unready quiet missing blamed =>
      refine ⟨?_, ?_, blamed, ?_⟩
      · rw [entryCalls_eq_nil quiet]
        exact Nat.zero_le _
      · constructor
        · rintro ⟨exchange, member, calls⟩
          exact absurd calls (quiet exchange member)
        · rintro ⟨layout, loaded, saved, ready⟩
          exact absurd ready (missing layout loaded saved)
      · intro before after entry bytes status cut
        exact absurd trivial (quiet ⟨.callEntry entry bytes, status⟩ (by simp [cut]))
  | @called first last layout size grant loaded saved filePath status ready granted laid naming early late =>
      refine ⟨?_, ?_, fun same => absurd same verdictOn_ne, ?_⟩
      · rw [List.filterMap_append, entryCalls_eq_nil early]
        change ((loaded.entry, loaded.bytes, status) :: last.filterMap entryCall?).length ≤ 1
        rw [entryCalls_eq_nil late]
        exact Nat.le_refl _
      · constructor
        · intro _
          exact ⟨layout, loaded, saved, ready⟩
        · intro _
          exact ⟨⟨.callEntry loaded.entry loaded.bytes, status⟩, by simp, trivial⟩
      · intro before after entry bytes found cut
        obtain ⟨-, told, -⟩ := Machine.gives_append.mp gives
        have stored := stores (machine.after state first) (pending.record loaded filePath)
          (by rw [← told]; rfl)
        rw [List.append_cons first, List.append_cons (first ++ _)] at cut
        have quiet : ∀ exchange ∈ first ++ [(⟨.snapshot, some saved⟩ : Exchange platform)] ++
            [⟨.install (pending.record loaded filePath), ()⟩], ¬ Call.CallsEntry exchange.call :=
          List.forall_mem_append.mpr ⟨List.forall_mem_append.mpr ⟨early, by simp [Call.CallsEntry]⟩,
            by simp [Call.CallsEntry]⟩
        obtain ⟨rfl, same, rfl⟩ :=
          split_unique (fun exchange : Exchange platform => Call.CallsEntry exchange.call) cut trivial
            quiet late
        cases same
        refine ⟨layout, loaded, saved, pending.record loaded filePath, ready, ?_, rfl, rfl, ?_, ?_, rfl⟩
        · exact ⟨size, grant, by simp [granted], laid⟩
        · rw [Machine.after_append, Machine.after_append]
          exact stored
        · exact Pending.record_describes prepared laid.size naming

end Use


section Placed

open Simulation

def placedPlatform : InMemory :=
  { strictPlatform with
    medium := {
      files := [("/a", #[1, 2, 3, 4])]
      root := some ⟨1, some [1, 1, 6, 0, 2, 31, 0x7f, 0xff, 4, 0]⟩ } }

def placedPreparation : Try Pending := prepare {} [['/', 'a'], ['-', 'v']] none

def placedState : InMemory := (placedPreparation.run.run InMemory.machine placedPlatform).state

def placedPending : Pending where
  file := ⟨0x100000, 1, #[1, 2, 3, 4]⟩
  image := #[1, 2, 3, 4]
  path := [1, 1, 6, 0, 2, 31, 4, 4, 6, 0, 0, 0, 4, 4, 8, 0, 97, 0, 0, 0, 0x7f, 0xff, 4, 0]
  options := some [0x2d, 0x76, 0]
  device := 1
  route := .validated

def placedHistory : History platform := placedPending.start.run.history InMemory.machine placedState

end Placed

/-- The start of a validated handoff enters its image exactly when there is a layout, the image can be loaded and
there is a record, and at most once. The image lies in memory then, and the record describes it. -/
theorem start_enters_image {σ : Type} (limit : MemoryLimit) (settings : Settings) (name : List Char)
    (arguments : List (List Char)) (preparation : History platform) (pending : Pending)
    (prepared : (prepare settings (name :: arguments) limit).Follows preparation (.ok pending))
    (route : pending.route = .validated) (machine : Machine platform σ) (record : σ → Option ImageRecord)
    (stores : StoresRecord machine record) (state : σ) :
    EntersImage machine record limit preparation name arguments pending state
      (pending.start.run.history machine state) (pending.start.run.run machine state).result := by
  have gives := Machine.gives_history machine pending.start.run state
  have started := Pending.start_follows (Program.follows_history machine pending.start.run state)
  obtain ⟨tail, -, names⟩ := prepare_fileName prepared
  generalize pending.start.run.history machine state = history at gives started ⊢
  generalize (pending.start.run.run machine state).result = verdict at started ⊢
  cases started with
  | firmware other => cases route.symm.trans other
  | validated _ started =>
      have use := started.entryUse gives ⟨tail, names⟩ (by simp [Call.CallsEntry])
      exact use.entersImage gives stores prepared

theorem start_enters_image_placed :
    ∃ before after layout loaded saved found,
      placedHistory = before ++ ⟨.callEntry 0x101000 #[1, 2, 3, 4], Status.success⟩ :: after ∧
        Ready Simulation.InMemory.machine placedState placedPending.image layout loaded saved ∧
        Simulation.InMemory.active (Simulation.InMemory.machine.after placedState before) = some found ∧
        Describes none (placedPreparation.run.history Simulation.InMemory.machine placedPlatform) ['/', 'a']
          [['-', 'v']] placedPending.path layout loaded found := by
  have prepared : placedPreparation.Follows
      (placedPreparation.run.history Simulation.InMemory.machine placedPlatform) (.ok placedPending) := by
    have follows := Program.follows_history Simulation.InMemory.machine placedPreparation.run placedPlatform
    have same : (placedPreparation.run.run Simulation.InMemory.machine placedPlatform).result =
        .ok placedPending := by decide +kernel
    rwa [same] at follows
  have enters := start_enters_image none {} _ _ _ placedPending prepared rfl Simulation.InMemory.machine
    Simulation.InMemory.active (fun _ _ _ => rfl) placedState
  have calls : placedHistory.filterMap entryCall? = [(0x101000, #[1, 2, 3, 4], Status.success)] := by
    decide +kernel
  obtain ⟨exchange, member, called⟩ :=
    List.mem_filterMap.mp (calls ▸ List.mem_singleton.mpr rfl : _ ∈ placedHistory.filterMap entryCall?)
  obtain rfl := entryCall?_eq_some called
  obtain ⟨before, after, cut⟩ := List.append_of_mem member
  obtain ⟨layout, loaded, saved, found, ready, -, -, -, active, describes, -⟩ := enters.entered cut
  exact ⟨before, after, layout, loaded, saved, found, cut, ready, active, describes⟩

end EfiHandoff
