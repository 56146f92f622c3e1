import EfiHandoff.Console
import EfiHandoff.Proofs.Handoff.StartReporting
import EfiHandoff.Proofs.SystemTable.Records
import EfiHandoff.Proofs.SystemTable.ShimRefusal

/-!
# What a console shows of a failure

A preparation that fails shows an error on every console that shows warnings. So does a start and the loading of an
image, but for a few failures that happen without a word, most of them over what the shim says.
-/

set_option autoImplicit false

namespace EfiHandoff

open SystemTable

/-- Something grave was written, and a console with the maximum level shows it. -/
def Journal.Shows (journal : Journal) (maximum : Option Level) : Prop :=
  ∃ entry ∈ journal, entry.IsGrave ∧ entry.line ∈ journal.lines maximum

private theorem Journal.shows_of_grave {journal : Journal} {maximum : Option Level}
    (warns : Level.warn.passes maximum = true) (grave : ∃ entry ∈ journal, entry.IsGrave) : journal.Shows maximum := by
  obtain ⟨entry, member, isGrave⟩ := grave
  have shown : entry.level.passes maximum = true := by
    rcases isGrave with error | warn
    · rw [error]
      exact decide_eq_true (Nat.le_of_succ_le (of_decide_eq_true warns))
    · rw [warn]
      exact warns
  exact ⟨entry, member, isGrave, List.mem_map_of_mem (List.mem_filter.mpr ⟨member, shown⟩)⟩

private theorem Journal.not_shows_of_quiet {journal : Journal} {maximum : Option Level}
    (quiet : ∀ entry ∈ journal, ¬entry.IsGrave) : ¬journal.Shows maximum :=
  fun ⟨entry, member, grave, _⟩ => quiet entry member grave

namespace Services

/-- How a start over the system table can fail without a word. All but the last need a shim. -/
inductive Untold (services : Services) (image : Buffer) (history : History systemTable) : BootError → Prop where
  /-- The image is too large for the shim to be asked about it. -/
  | unasked (installed : services.shim.isSome) (large : Shim.sizeLimit ≤ image.size) :
      Untold services image history .contextRejected
  /-- The answer of the shim points out of the image, or gives no alignment. -/
  | stray {shim : UInt64} {context : ShimContext} {fault : Shim.ContextFault} (installed : services.shim = some shim)
      (answered : ⟨.shimContext shim image, (Status.success, context)⟩ ∈ history)
      (refused : Shim.layoutOf image context = .error fault) : Untold services image history (Fault.error fault)
  /-- The layout that the answer gives has a flaw that no headers have. -/
  | flawed {shim : UInt64} {context : ShimContext} {layout : Image.Layout} {error : BootError}
      (installed : services.shim = some shim)
      (answered : ⟨.shimContext shim image, (Status.success, context)⟩ ∈ history)
      (read : Shim.layoutOf image context = .ok layout) (untold : Image.Untold image layout error) :
      Untold services image history error
  /-- The pool granted memory that ends beyond the address space. -/
  | beyond {kind : UInt32} {size : Nat} {grant : Grant}
      (granted : ⟨.allocatePool kind size, (Status.success, grant)⟩ ∈ history)
      (large : wordLimit < grant.address.toNat + size) : Untold services image history .outOfMemory

variable {services : Services} {volume : Option Volume} {image : Buffer} {history : History systemTable}
  {journal : Journal}

/-- What the shim refuses is written down, or it is one of the failures without a word. -/
theorem layoutOf_refused {error : BootError} (installed : services.shim.isSome)
    (traces : (services.layoutOf image).Traces history journal (.error error)) :
    (∃ entry ∈ journal, entry.IsGrave) ∨ services.Untold image history error := by
  obtain ⟨none, -⟩ | ⟨shim, found, asking⟩ := layoutOf_traces traces
  · rw [none] at installed
    cases installed
  · cases asking with
    | unasked large => exact .inr (.unasked installed large)
    | failed => exact .inl ⟨_, List.mem_singleton_self _, .inl rfl⟩
    | stray refused => exact .inr (.stray found (List.mem_singleton_self _) refused)

private theorem allocatePool_granted {kind : MemoryKind} {size : Nat} {grant : Grant}
    (follows : (allocatePool kind size).Follows history (.ok grant)) :
    history = [⟨.allocatePool kind.number size, (Status.success, grant)⟩] := by
  obtain ⟨⟨status, given⟩, later, rfl, answered⟩ := Program.follows_ask.mp follows
  dsimp only at answered
  by_cases success : status.isSuccess
  · rw [if_pos success] at answered
    obtain ⟨rfl, same⟩ := Program.follows_pure.mp answered
    obtain rfl := beq_iff_eq.mp success
    split at same
    · cases same
    · cases same
      rfl
  · rw [if_neg success] at answered
    cases (Program.follows_pure.mp answered).2

theorem Untold.mono {error : BootError} {wider : History systemTable} (untold : services.Untold image history error)
    (within : history ⊆ wider) : services.Untold image wider error := by
  cases untold with
  | unasked installed large => exact .unasked installed large
  | stray installed answered refused => exact .stray installed (within answered) refused
  | flawed installed answered read untold => exact .flawed installed (within answered) read untold
  | beyond granted large => exact .beyond (within granted) large

/-- No failure that carries a foreign status is among them. -/
theorem Untold.plain {error : BootError} (untold : services.Untold image history error) : error.carried? = none := by
  cases untold with
  | unasked => rfl
  | stray _ _ refused => exact (Shim.layoutOf_findsStray _ _ refused).plain
  | flawed _ _ _ untold => cases untold <;> rfl
  | beyond => rfl

/-- What a start leaves untold is so over the system table as well, unless the shim wrote it down. -/
theorem untold_of_answered {pending : Pending} {above : History platform} {error : BootError}
    (untold : pending.Untold above error)
    (answered : ∀ exchange ∈ above, ∃ stretch written,
      (services.answer volume exchange.call).Traces stretch written exchange.reply ∧
        stretch ⊆ history ∧ written ⊆ journal) :
    (∃ entry ∈ journal, entry.IsGrave) ∨ services.Untold pending.image history error := by
  cases untold with
  | refused own asked =>
      obtain ⟨-, -, ⟨-, -, rooted⟩, -, -⟩ := answered _ own
      obtain ⟨stretch, written, given, within, among⟩ := answered _ asked
      have installed : services.shim.isSome := by
        cases found : services.shim with
        | none =>
            rw [found] at rooted
            cases rooted
        | some shim => rfl
      obtain ⟨entry, member, grave⟩ | untold := layoutOf_refused installed given
      · exact .inl ⟨entry, among member, grave⟩
      · exact .inr (untold.mono within)
  | flawed asked untold =>
      obtain ⟨stretch, _, given, within, -⟩ := answered _ asked
      obtain ⟨-, ⟨⟩⟩ | ⟨shim, installed, asking⟩ := layoutOf_traces given
      cases asking with
      | given read => exact .inr (.flawed installed (within (List.mem_singleton_self _)) read untold)
  | beyond beyond =>
      obtain ⟨kind, size, grant, granted, large⟩ := beyond
      obtain ⟨stretch, _, given, within, -⟩ := answered _ granted
      obtain rfl := allocatePool_granted given.follows
      exact .inr (.beyond (within (List.mem_singleton_self _)) large)

end Services

/-- On a console that shows warnings, a preparation that fails shows an error. So does a start, unless it fails without
a word over what the shim says or over memory beyond the address space; and so does loading an image on any platform,
unless its layout has a flaw that no headers have, or the memory lies beyond the address space. -/
theorem failures_reported {σ τ : Type} (services : Services) (volume : Option Volume) (machine : Machine systemTable σ)
    (state : σ) (other : Machine platform τ) (start : τ) (maximum : Option Level)
    (warns : Level.warn.passes maximum = true) :
    (∀ limit settings arguments error,
      let run := (services.perform volume (prepare settings arguments limit).run).run machine state
      run.result = .error error → run.journal.Shows maximum) ∧
    (∀ (pending : Pending) error,
      let starting := services.perform volume pending.start.run
      (starting.run machine state).result = .error error →
        (starting.run machine state).journal.Shows maximum ∨
          services.Untold pending.image (starting.history machine state) error) ∧
    ∀ file layout error,
      let loading := (Image.load file layout).run
      (loading.run other start).result = .error error →
        (loading.run other start).journal.Shows maximum ∨ Image.Untold file layout error ∨
          error = .outOfMemory ∧ PoolBeyond (loading.history other start) := by
  refine ⟨?_, ?_, ?_⟩
  · intro limit settings arguments error run failed
    obtain ⟨above, own, said, kept, -⟩ := (prepare_tells limit settings arguments).run_interpreted failed
    obtain ⟨entry, member, grave⟩ := said.2
    exact Journal.shows_of_grave warns ⟨entry, kept member, grave⟩
  · intro pending error starting failed
    obtain ⟨above, own, said, kept, answered⟩ := pending.start_tells.run_interpreted failed
    obtain ⟨entry, member, grave⟩ | untold := said.2
    · exact .inl (Journal.shows_of_grave warns ⟨entry, kept member, grave⟩)
    · exact (Services.untold_of_answered untold answered).imp_left (Journal.shows_of_grave warns)
  · intro file layout error loading failed
    have traces := Program.traces_run other loading start
    rw [failed] at traces
    exact (Image.load_tells file layout _ _ error traces).2.imp_left (Journal.shows_of_grave warns)

section Shown

open Simulation

def oddLayout : Image.Layout where
  preferredBase := 0
  imageSize := 16
  entry := 0
  headersSize := 0
  sectionCount := 0
  sectionTable := 0
  relocations := .absent
  directoryCount := 0
  alignment := 3

def farLayout : Image.Layout :=
  { oddLayout with sectionCount := 1, sectionTable := 64, alignment := 16 }

def barePlatform : InMemory := { medium := { files := [], root := none } }

def shimStart (status : Status) (context : ShimContext) : ScriptedTable where
  script := { ledgerScript with shim := some { context := some (status, context) } }
  arena := Arena.empty 0
  loader := loaderRecord 7

def strayStart : ScriptedTable := shimStart .success { ledgerContext with firstSection := none }

def strayPreparation : SystemTable.Act (Except BootError Pending) :=
  ledgerServices.perform ledgerVolume (prepare {} [['/', 'a']] none).run

def strayPending : Pending where
  file := ⟨0x1002000000, 1, (Array.replicate 64 0).set! 56 1⟩
  image := (Array.replicate 64 0).set! 56 1
  path := [4, 4, 6, 0, 0, 0, 4, 4, 8, 0, 97, 0, 0, 0, 127, 255, 4, 0]
  options := none
  device := 7
  route := .validated

end Shown

/-- A name without a directory shows, and so do a shim that fails and an image that cannot be aligned. -/
theorem failures_reported_refused :
    Level.warn.passes (some .warn) = true ∧
      (let run := (ledgerServices.perform ledgerVolume (prepare {} [['a']] none).run).run
        Simulation.ScriptedTable.machine strayStart
      run.result = .error .pathWithoutDirectory ∧ run.journal.Shows (some .warn)) ∧
      (let run := (ledgerServices.perform ledgerVolume strayPending.start.run).run Simulation.ScriptedTable.machine
        (shimStart .loadError ledgerContext)
      run.result = .error (.contextFailed .loadError) ∧ run.journal.Shows (some .warn)) ∧
      let run := (Image.load #[0xc3] oddLayout).run.run Simulation.InMemory.machine barePlatform
      run.result = .error (.invalidAlignment 3) ∧ run.journal.Shows (some .warn) := by
  have warns : Level.warn.passes (some .warn) = true := by decide
  refine ⟨warns, ?_, ?_, ?_⟩
  · obtain ⟨prepared, -⟩ := failures_reported ledgerServices ledgerVolume Simulation.ScriptedTable.machine strayStart
      Simulation.InMemory.machine barePlatform _ warns
    have pathless : ((ledgerServices.perform ledgerVolume (prepare {} [['a']] none).run).run
        Simulation.ScriptedTable.machine strayStart).result = .error .pathWithoutDirectory := by decide +kernel
    exact ⟨pathless, prepared _ _ _ _ pathless⟩
  · obtain ⟨-, started, -⟩ := failures_reported ledgerServices ledgerVolume Simulation.ScriptedTable.machine
      (shimStart .loadError ledgerContext) Simulation.InMemory.machine barePlatform _ warns
    have failed : ((ledgerServices.perform ledgerVolume strayPending.start.run).run Simulation.ScriptedTable.machine
        (shimStart .loadError ledgerContext)).result = .error (.contextFailed .loadError) := by decide +kernel
    exact ⟨failed, (started _ _ failed).resolve_right fun untold => nomatch untold.plain⟩
  · obtain ⟨-, -, loaded⟩ := failures_reported ledgerServices ledgerVolume Simulation.ScriptedTable.machine strayStart
      Simulation.InMemory.machine barePlatform _ warns
    have odd : ((Image.load #[0xc3] oddLayout).run.run Simulation.InMemory.machine barePlatform).result =
        .error (.invalidAlignment 3) := by rfl
    refine ⟨odd, (loaded _ _ _ odd).resolve_right ?_⟩
    rintro (⟨⟨⟩⟩ | ⟨⟨⟩, -⟩)

/-- The shim accepts the image and points nowhere, and the failure shows on no console. Nor does that of an image whose
section header lies outside the file. -/
theorem failures_unreported :
    (strayPreparation.run Simulation.ScriptedTable.machine strayStart).result = .ok strayPending ∧
      (let run := (ledgerServices.perform ledgerVolume strayPending.start.run).run Simulation.ScriptedTable.machine
        (strayPreparation.run Simulation.ScriptedTable.machine strayStart).state
      run.result = .error (.invalidHeader "section table") ∧ ∀ maximum, ¬run.journal.Shows maximum) ∧
      let run := (Image.load #[0xc3] farLayout).run.run Simulation.InMemory.machine barePlatform
      run.result = .error (.invalidHeader "section table outside file") ∧ ∀ maximum, ¬run.journal.Shows maximum := by
  refine ⟨by decide +kernel, ⟨by decide +kernel, fun maximum => ?_⟩, by decide +kernel, fun maximum => ?_⟩
  · exact Journal.not_shows_of_quiet (by decide +kernel)
  · exact Journal.not_shows_of_quiet (by decide +kernel)

end EfiHandoff
