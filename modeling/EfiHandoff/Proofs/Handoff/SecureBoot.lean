import EfiHandoff.Proofs.Handoff.Session
import EfiHandoff.Simulation.InMemory
import EfiHandoff.SystemTable.Services

/-!
# What secure boot guarantees

With secure boot on nothing but a verified image is entered, and what is entered is loaded from the bytes that were
verified. The firmware's own loader is used only where secure boot is off, and never beside the loader's own.
-/

set_option autoImplicit false

namespace EfiHandoff

open Platform

def Platform.Call.Decides : Platform.Call → Prop
  | .secureBootMode | .verify _ | .loadImage _ _ => True
  | _ => False

def Platform.Call.AsksMode : Platform.Call → Prop
  | .secureBootMode => True
  | _ => False

def Platform.Call.UsesFirmwareLoader : Platform.Call → Prop
  | .loadImage _ _ | .startImage _ => True
  | _ => False

def Platform.Call.CallsEntry : Platform.Call → Prop
  | .callEntry _ _ => True
  | _ => False

/-- The last questions of a history had the trust root verify an image because secure boot is on. -/
def Verified (image : Buffer) (history : History platform) : Prop :=
  ∃ before source, history = before ++ [⟨.secureBootMode, SecureBootMode.enabled⟩,
    ⟨.trustRoot, some source⟩, ⟨.verify image, .ok ()⟩]

/-- A layout was taken from an image: from the trust root, or from the headers. -/
inductive Parsed (image : Buffer) : History platform → Image.Layout → Prop where
  | own {layout : Image.Layout} :
      Parsed image [⟨.trustRoot, some LayoutSource.own⟩, ⟨.layoutOf image, .ok layout⟩] layout
  | headers {source : Option LayoutSource} {layout : Image.Layout} (plain : source ≠ some .own)
      (read : Image.readLayout image = .ok layout) : Parsed image [⟨.trustRoot, source⟩] layout

/-- An entry point was called in a session that took its image from the file, had it verified unless it was forced,
and parsed and loaded the very same bytes before. -/
inductive Entered (settings : Settings) :
    History platform → Outcome → UInt64 → Buffer → Prop where
  | intro {preparation parsing loading rest : History platform} {pending : Pending}
      {verdict : Except BootError Unit} {layout : Image.Layout} {loaded : Image.Loaded}
      (selected : imageOf settings pending.file.bytes = .ok pending.image)
      (passed : settings.forceValidated = true ∨ Verified pending.image preparation)
      (parsed : Parsed pending.image parsing layout)
      (loads : (Image.load pending.image layout).Follows loading (.ok loaded)) :
      Entered settings (preparation ++ (parsing ++ (loading ++ rest))) (.booted pending verdict)
        loaded.entry loaded.bytes

/-- What comes after secure boot was found to be on. -/
inductive Judged : History platform → Outcome → Prop where
  | rootless {rest : History platform} :
      Judged (⟨.trustRoot, none⟩ :: rest) (.refused .noTrustRoot)
  | rejected {rest : History platform} {source : LayoutSource} {image : Buffer} {status : Status} :
      Judged (⟨.trustRoot, some source⟩ :: ⟨.verify image, .error status⟩ :: rest)
        (.refused .verificationFailed)
  | verified {rest : History platform} {source : LayoutSource} {outcome : Outcome} {pending : Pending}
      (prepared : outcome.pending? = some pending) (route : pending.route = .validated) :
      Judged (⟨.trustRoot, some source⟩ :: ⟨.verify pending.image, .ok ()⟩ :: rest) outcome

/-- What secure boot guarantees of a session. -/
structure Guarded (settings : Settings) (history : History platform) (outcome : Outcome) : Prop where
  entered : ∀ {entry : UInt64} {bytes : Buffer} {status : Status},
    (⟨.callEntry entry bytes, status⟩ : Exchange platform) ∈ history →
      Entered settings history outcome entry bytes
  enabled : ∀ {before after : History platform},
    history = before ++ ⟨.secureBootMode, SecureBootMode.enabled⟩ :: after →
      settings.forceValidated = false ∧ Judged after outcome ∧
        ∀ exchange ∈ history, ¬ Call.UsesFirmwareLoader exchange.call
  loads : ∀ {path : Bytes} {image : Buffer} {reply : Except Status Handle},
    (⟨.loadImage path image, reply⟩ : Exchange platform) ∈ history →
      settings.forceValidated = false ∧ ∃ before after, ∃ mode : SecureBootMode, mode ≠ .enabled ∧
        history = before ++ ⟨.secureBootMode, mode⟩ :: ⟨.loadImage path image, reply⟩ :: after
  oneWay : (∀ exchange ∈ history, ¬ Call.UsesFirmwareLoader exchange.call) ∨
    ∀ exchange ∈ history, ¬ Call.CallsEntry exchange.call

section Decided

variable {limit : MemoryLimit} {settings : Settings} {history : History platform} {outcome : Outcome}

def Settled (image : Buffer) (outcome : Outcome) (rest : History platform) :
    Except BootError Route → Prop
  | .error error => outcome = .refused error ∧ ∀ exchange ∈ rest, Call.ReadsFile exchange.call
  | .ok .validated =>
      (∃ pending, outcome.pending? = some pending ∧ pending.image = image ∧
        pending.route = .validated) ∧ ∀ exchange ∈ rest, Call.Enters exchange.call
  | .ok (.firmware _) =>
      ∀ exchange ∈ rest, ¬ Call.Decides exchange.call ∧ ¬ Call.CallsEntry exchange.call

/-- A session asks about its file, then decides, and goes on by its decision; or it ends before it decides. -/
inductive Decided (settings : Settings) : History platform → Outcome → Prop where
  | early {history : History platform} {error : BootError}
      (reads : ∀ exchange ∈ history, Call.ReadsFile exchange.call) :
      Decided settings history (.refused error)
  | gated {first second rest : History platform} {path : Bytes} {image : Buffer} {outcome : Outcome}
      {decision : Except BootError Route}
      (reads : ∀ exchange ∈ first, Call.ReadsFile exchange.call)
      (gate : Gate settings path image second decision)
      (settled : Settled image outcome rest decision) :
      Decided settings (first ++ (second ++ rest)) outcome

theorem Preparation.decided {arguments : List (List Char)} {error : BootError}
    (preparation : Preparation limit settings arguments history (.error error)) :
    Decided settings history (.refused error) := by
  cases preparation with
  | nameless => exact .early (List.forall_mem_nil _)
  | unencoded => exact .early (List.forall_mem_nil _)
  | unread failed => exact .early ((fetch_follows failed).reads)
  | unselected fetched =>
      exact .early (List.forall_mem_append.mpr
        ⟨(fetch_follows fetched).reads, by simp [Call.ReadsFile]⟩)
  | stopped fetched _ gate =>
      exact .gated ((fetch_follows fetched).reads) gate ⟨rfl, by simp [Call.ReadsFile]⟩
  | unconfigured fetched _ route gate released =>
      rw [route] at gate
      refine .gated ((fetch_follows fetched).reads) gate ?_
      cases released <;> simp [Settled, Call.Decides, Call.CallsEntry]

theorem Session.decided {arguments : List (List Char)} {finish : Finish}
    (session : Session limit settings arguments finish history outcome) :
    Decided settings history outcome := by
  cases session with
  | refused prepared => exact prepared.decided
  | @booted first second pending verdict prepared started =>
      cases prepared with
      | firmware fetched selected route gate =>
          rw [route] at gate
          rw [List.append_assoc, List.append_assoc]
          refine .gated ((fetch_follows fetched).reads) gate ?_
          cases started with
          | firmware => simp [Settled, Call.Decides, Call.CallsEntry]
          | validated other => cases other.symm.trans route
      | validated fetched selected route gate =>
          rw [route] at gate
          rw [List.append_assoc]
          refine .gated ((fetch_follows fetched).reads) gate ⟨⟨pending, rfl, rfl, route⟩, ?_⟩
          cases started with
          | firmware other => cases other.symm.trans route
          | validated _ started =>
              exact List.forall_mem_append.mpr ⟨started.enters, by simp [Call.Enters]⟩
  | @dropped _ first second pending prepared released =>
      cases prepared with
      | firmware fetched selected route gate =>
          rw [route] at gate
          rw [List.append_assoc, List.append_assoc]
          refine .gated ((fetch_follows fetched).reads) gate ?_
          cases released <;> simp [Settled, Call.Decides, Call.CallsEntry]
      | validated fetched selected route gate =>
          rw [route] at gate
          rw [List.append_assoc]
          refine .gated ((fetch_follows fetched).reads) gate ⟨⟨pending, rfl, rfl, route⟩, ?_⟩
          cases released with
          | firmware other => cases other.symm.trans route
          | validated => simp [Call.Enters]

end Decided

section Entered

variable {limit : MemoryLimit} {settings : Settings} {history : History platform} {outcome : Outcome}
  {pending : Pending}

private theorem Pending.layout_parsed {image : Buffer} {layout : Image.Layout}
    (follows : (Pending.layout image).Follows history (.ok layout)) : Parsed image history layout := by
  obtain rfl | ⟨source, plain, rfl, read⟩ := layout_follows follows
  · exact .own
  · exact .headers plain (Fault.simplify_eq_ok_iff.mp read.symm)

theorem Pending.layout_not_callsEntry {image : Buffer} {verdict : Except BootError Image.Layout}
    (follows : (Pending.layout image).Follows history verdict) :
    ∀ exchange ∈ history, ¬ Call.CallsEntry exchange.call := by
  obtain rfl | ⟨source, -, rfl, -⟩ := layout_follows follows <;> simp [Call.CallsEntry]

theorem Image.Loading.not_callsEntry {layout : Image.Layout} {verdict : Except BootError Image.Loaded}
    (loading : Image.Loading layout history verdict) :
    ∀ exchange ∈ history, ¬ Call.CallsEntry exchange.call := by
  cases loading <;> simp [Call.CallsEntry]

theorem callsEntry_late {image : Buffer} {layout : Image.Layout} {parsing loading rest : History platform}
    {parsed : Except BootError Image.Layout} {loaded : Except BootError Image.Loaded}
    (parses : (Pending.layout image).Follows parsing parsed)
    (loads : (Image.load image layout).Follows loading loaded) {exchange : Exchange platform}
    (member : exchange ∈ parsing ++ (loading ++ rest)) (calls : Call.CallsEntry exchange.call) :
    exchange ∈ rest := by
  rcases List.mem_append.mp member with early | later
  · exact absurd calls (Pending.layout_not_callsEntry parses exchange early)
  rcases List.mem_append.mp later with early | late
  · exact absurd calls ((Image.load_follows loads).not_callsEntry exchange early)
  · exact late

private theorem Pending.ValidatedStart.callsEntry {verdict : Except BootError Unit}
    (started : pending.ValidatedStart history verdict) {exchange : Exchange platform}
    (member : exchange ∈ history) (calls : Call.CallsEntry exchange.call) :
    ∃ parsing loading rest layout loaded, history = parsing ++ (loading ++ rest) ∧
      Parsed pending.image parsing layout ∧
      (Image.load pending.image layout).Follows loading (.ok loaded) ∧
      exchange.call = Call.callEntry loaded.entry loaded.bytes := by
  cases started with
  | unparsed failed => exact absurd calls (layout_not_callsEntry failed exchange member)
  | @unloaded first second layout error parsed failed =>
      have member : exchange ∈ first ++ (second ++ []) := by rwa [List.append_nil]
      cases callsEntry_late parsed failed member calls
  | unnamed parsed loading =>
      have late := callsEntry_late parsed loading member calls
      simp only [List.mem_singleton] at late
      subst late
      exact calls.elim
  | recordless parsed loading =>
      have late := callsEntry_late parsed loading member calls
      simp only [List.mem_cons, List.not_mem_nil, or_false] at late
      rcases late with rfl | rfl <;> exact calls.elim
  | @entered first second layout loaded filePath saved status freed parsed loading named =>
      have late := callsEntry_late parsed loading member calls
      refine ⟨first, second, _, layout, loaded, rfl, layout_parsed parsed, loading, ?_⟩
      simp only [List.mem_cons, List.not_mem_nil, or_false] at late
      rcases late with rfl | rfl | rfl | rfl | rfl
      · exact calls.elim
      · exact calls.elim
      · rfl
      · exact calls.elim
      · exact calls.elim

theorem Session.entered {arguments : List (List Char)} {finish : Finish}
    (session : Session limit settings arguments finish history outcome) {entry : UInt64} {bytes : Buffer}
    {status : Status} (member : (⟨.callEntry entry bytes, status⟩ : Exchange platform) ∈ history) :
    Entered settings history outcome entry bytes := by
  cases session with
  | refused prepared => exact (prepared.prepares _ member).elim
  | dropped prepared released =>
      rcases List.mem_append.mp member with early | late
      · exact (prepared.prepares _ early).elim
      · exact (released.prepares _ late).elim
  | @booted first second pending verdict prepared started =>
      rcases List.mem_append.mp member with early | late
      · exact (prepared.prepares _ early).elim
      cases started with
      | firmware =>
          simp only [List.mem_cons, List.not_mem_nil, or_false] at late
          rcases late with same | same | same <;> cases same
      | @validated body _ freed route started =>
          have called : (⟨.callEntry entry bytes, status⟩ : Exchange platform) ∈ body := by
            rcases List.mem_append.mp late with member | last
            · exact member
            · cases List.mem_singleton.mp last
          obtain ⟨parsing, loading, rest, layout, loaded, rfl, parsed, loads, same⟩ :=
            started.callsEntry called trivial
          cases same
          cases prepared with
          | firmware _ _ other => cases route.symm.trans other
          | @validated _ _ early gating _ fetched selected _ gate =>
              rw [route] at gate
              rw [List.append_assoc parsing, List.append_assoc loading]
              refine .intro selected ?_ parsed loads
              cases gate with
              | forced forced => exact .inl forced
              | verified free => exact .inr ⟨early, _, rfl⟩

end Entered

section Guarded

variable {limit : MemoryLimit} {settings : Settings} {history : History platform} {outcome : Outcome}

private theorem Platform.Call.ReadsFile.not_decides {call : Platform.Call} (reads : call.ReadsFile) :
    ¬ call.Decides ∧ ¬ call.UsesFirmwareLoader ∧ ¬ call.CallsEntry := by
  cases call <;> first | exact reads.elim | exact ⟨id, id, id⟩

private theorem Platform.Call.Enters.not_decides {call : Platform.Call} (enters : call.Enters) :
    ¬ call.Decides ∧ ¬ call.UsesFirmwareLoader := by
  cases call <;> first | exact enters.elim | exact ⟨id, id⟩

private theorem Settled.not_decides {image : Buffer} {rest : History platform}
    {decision : Except BootError Route} (settled : Settled image outcome rest decision) :
    ∀ exchange ∈ rest, ¬ Call.Decides exchange.call := by
  intro exchange member
  cases decision with
  | error => exact (settled.2 exchange member).not_decides.1
  | ok route =>
      cases route with
      | validated => exact (settled.2 exchange member).not_decides.1
      | firmware => exact (settled exchange member).1

private theorem Settled.not_firmware {image : Buffer} {rest : History platform}
    {decision : Except BootError Route} (settled : Settled image outcome rest decision)
    (other : ∀ handle, decision ≠ .ok (.firmware handle)) :
    ∀ exchange ∈ rest, ¬ Call.UsesFirmwareLoader exchange.call := by
  intro exchange member
  cases decision with
  | error => exact (settled.2 exchange member).not_decides.2.1
  | ok route =>
      cases route with
      | validated => exact (settled.2 exchange member).not_decides.2
      | firmware handle => exact absurd rfl (other handle)

theorem Platform.Call.AsksMode.decides {call : Platform.Call} (asks : call.AsksMode) :
    call.Decides := by
  cases call with
  | secureBootMode => trivial
  | _ => exact asks.elim

/-- The mode is asked for once, and first of all that decides. -/
theorem Decided.mode_unique {first tail rest before after : History platform} {image : Buffer}
    {mode found : SecureBootMode} {decision : Except BootError Route}
    (reads : ∀ exchange ∈ first, Call.ReadsFile exchange.call)
    (others : ∀ exchange ∈ tail, ¬ Call.AsksMode exchange.call)
    (settled : Settled image outcome rest decision)
    (same : first ++ (⟨.secureBootMode, mode⟩ :: tail ++ rest) =
      before ++ ⟨.secureBootMode, found⟩ :: after) :
    found = mode ∧ after = tail ++ rest := by
  have early : ∀ exchange ∈ first, ¬ Call.AsksMode exchange.call :=
    fun exchange member asks => (reads exchange member).not_decides.1 asks.decides
  have late : ∀ exchange ∈ tail ++ rest, ¬ Call.AsksMode exchange.call :=
    List.forall_mem_append.mpr
      ⟨others, fun exchange member asks => settled.not_decides exchange member asks.decides⟩
  obtain ⟨-, equal, rest⟩ :=
    split_unique (fun exchange : Exchange platform => Call.AsksMode exchange.call) same
      trivial early late
  cases equal
  exact ⟨rfl, rest⟩

theorem Decided.enabled (decided : Decided settings history outcome) {before after : History platform}
    (on : history = before ++ ⟨.secureBootMode, SecureBootMode.enabled⟩ :: after) :
    settings.forceValidated = false ∧ Judged after outcome ∧
      ∀ exchange ∈ history, ¬ Call.UsesFirmwareLoader exchange.call := by
  have asked : (⟨.secureBootMode, SecureBootMode.enabled⟩ : Exchange platform) ∈ history := by
    rw [on]
    exact List.mem_append_right _ List.mem_cons_self
  cases decided with
  | early reads => exact (reads _ asked).elim
  | @gated first second rest path image _ decision reads gate settled =>
      have outside (inside : ∀ exchange ∈ second, ¬ Call.UsesFirmwareLoader exchange.call)
          (other : ∀ handle, decision ≠ .ok (.firmware handle)) :
          ∀ exchange ∈ first ++ (second ++ rest), ¬ Call.UsesFirmwareLoader exchange.call :=
        List.forall_mem_append.mpr ⟨fun exchange member => (reads exchange member).not_decides.2.1,
          List.forall_mem_append.mpr ⟨inside, settled.not_firmware other⟩⟩
      cases gate with
      | forced forced =>
          rcases List.mem_append.mp asked with early | late
          · exact (reads _ early).elim
          · exact absurd trivial (settled.not_decides _ late)
      | rootless free =>
          obtain ⟨-, rfl⟩ := mode_unique reads (by simp [Call.AsksMode]) settled on
          obtain ⟨rfl, -⟩ := settled
          exact ⟨free, .rootless, outside (by simp [Call.UsesFirmwareLoader]) (by simp)⟩
      | rejected free =>
          obtain ⟨-, rfl⟩ := mode_unique reads (by simp [Call.AsksMode]) settled on
          obtain ⟨rfl, -⟩ := settled
          exact ⟨free, .rejected, outside (by simp [Call.UsesFirmwareLoader]) (by simp)⟩
      | verified free =>
          obtain ⟨-, rfl⟩ := mode_unique reads (by simp [Call.AsksMode]) settled on
          obtain ⟨⟨pending, prepared, rfl, route⟩, -⟩ := settled
          exact ⟨free, .verified prepared route, outside (by simp [Call.UsesFirmwareLoader]) (by simp)⟩
      | refused free off =>
          obtain ⟨same, -⟩ := mode_unique reads (by simp [Call.AsksMode]) settled on
          exact absurd same.symm off
      | loaded free off =>
          obtain ⟨same, -⟩ := mode_unique reads (by simp [Call.AsksMode]) settled on
          exact absurd same.symm off

theorem Gate.loads {path other : Bytes} {image handed : Buffer} {decision : Except BootError Route}
    {reply : Except Status Handle} (gate : Gate settings path image history decision)
    (asked : (⟨.loadImage other handed, reply⟩ : Exchange platform) ∈ history) :
    settings.forceValidated = false ∧ ∃ mode : SecureBootMode, mode ≠ .enabled ∧
      history = [⟨.secureBootMode, mode⟩, ⟨.loadImage other handed, reply⟩] := by
  cases gate with
  | forced => cases asked
  | rootless =>
      simp only [List.mem_cons, List.not_mem_nil, or_false] at asked
      rcases asked with same | same <;> cases same
  | rejected | verified =>
      simp only [List.mem_cons, List.not_mem_nil, or_false] at asked
      rcases asked with same | same | same <;> cases same
  | refused free off | loaded free off =>
      simp only [List.mem_cons, List.not_mem_nil, or_false] at asked
      rcases asked with same | same
      · cases same
      · cases same
        exact ⟨free, _, off, rfl⟩

theorem Decided.loads (decided : Decided settings history outcome) {path : Bytes} {image : Buffer}
    {reply : Except Status Handle}
    (asked : (⟨.loadImage path image, reply⟩ : Exchange platform) ∈ history) :
    settings.forceValidated = false ∧ ∃ before after, ∃ mode : SecureBootMode, mode ≠ .enabled ∧
      history = before ++ ⟨.secureBootMode, mode⟩ :: ⟨.loadImage path image, reply⟩ :: after := by
  cases decided with
  | early reads => exact (reads _ asked).elim
  | gated reads gate settled =>
      rcases List.mem_append.mp asked with early | later
      · exact (reads _ early).elim
      rcases List.mem_append.mp later with deciding | late
      · obtain ⟨free, mode, off, rfl⟩ := gate.loads deciding
        exact ⟨free, _, _, mode, off, rfl⟩
      · exact absurd trivial (settled.not_decides _ late)

private theorem Decided.oneWay (decided : Decided settings history outcome) :
    (∀ exchange ∈ history, ¬ Call.UsesFirmwareLoader exchange.call) ∨
      ∀ exchange ∈ history, ¬ Call.CallsEntry exchange.call := by
  cases decided with
  | early reads => exact .inl fun exchange member => (reads exchange member).not_decides.2.1
  | @gated first second rest path image _ decision reads gate settled =>
      have outside (inside : ∀ exchange ∈ second, ¬ Call.UsesFirmwareLoader exchange.call)
          (other : ∀ handle, decision ≠ .ok (.firmware handle)) :
          ∀ exchange ∈ first ++ (second ++ rest), ¬ Call.UsesFirmwareLoader exchange.call :=
        List.forall_mem_append.mpr ⟨fun exchange member => (reads exchange member).not_decides.2.1,
          List.forall_mem_append.mpr ⟨inside, settled.not_firmware other⟩⟩
      have unentered (inside : ∀ exchange ∈ second, ¬ Call.CallsEntry exchange.call)
          (late : ∀ exchange ∈ rest, ¬ Call.CallsEntry exchange.call) :
          ∀ exchange ∈ first ++ (second ++ rest), ¬ Call.CallsEntry exchange.call :=
        List.forall_mem_append.mpr ⟨fun exchange member => (reads exchange member).not_decides.2.2,
          List.forall_mem_append.mpr ⟨inside, late⟩⟩
      cases gate with
      | forced => exact .inl (outside (List.forall_mem_nil _) (by simp))
      | rootless | rejected | verified =>
          exact .inl (outside (by simp [Call.UsesFirmwareLoader]) (by simp))
      | refused =>
          exact .inr (unentered (by simp [Call.CallsEntry])
            fun exchange member => (settled.2 exchange member).not_decides.2.2)
      | loaded =>
          exact .inr (unentered (by simp [Call.CallsEntry])
            fun exchange member => (settled exchange member).2)

end Guarded

section Shim

variable {image : Buffer} {history : History systemTable} {verdict : Except Status Unit}

theorem Status.toExcept_eq_ok_iff {status : Status} : status.toExcept = .ok () ↔ status = .success := by
  unfold toExcept isSuccess
  split
  · next success => exact ⟨fun _ => eq_of_beq success, fun _ => rfl⟩
  · next failure => exact ⟨by simp, fun same => absurd (beq_iff_eq.mpr same) failure⟩

theorem Shim.verify_follows {shim : UInt64} (follows : (Shim.verify shim image).Follows history verdict) :
    sizeLimit ≤ image.size ∧ history = [] ∧ verdict = .error .badBufferSize ∨
      ∃ status : Status, image.size < sizeLimit ∧ history = [⟨.shimVerify shim image, status⟩] ∧
        verdict = status.toExcept := by
  unfold Shim.verify at follows
  by_cases small : image.size < sizeLimit
  · rw [if_pos small] at follows
    obtain ⟨status, later, rfl, ⟨rfl, rfl⟩⟩ := Program.follows_ask.mp follows
    exact .inr ⟨status, small, rfl, rfl⟩
  · rw [if_neg small] at follows
    obtain ⟨rfl, rfl⟩ := Program.follows_pure.mp follows
    exact .inl ⟨Nat.le_of_not_lt small, rfl, rfl⟩

/-- The shim passes an image only when it has said so itself, and is not asked about one beyond its limit. -/
theorem Services.verify_follows {services : Services}
    (follows : (services.verify image).Follows history verdict) :
    (verdict = .ok () → ∃ shim, services.shim = some shim ∧ image.size < Shim.sizeLimit ∧
        history = [⟨.shimVerify shim image, Status.success⟩]) ∧
      (services.shim.isSome = true → Shim.sizeLimit ≤ image.size →
        history = [] ∧ verdict = .error .badBufferSize) := by
  unfold verify at follows
  cases found : services.shim with
  | none =>
      rw [found] at follows
      obtain ⟨rfl, rfl⟩ := Program.follows_pure.mp follows
      exact ⟨by simp, by simp⟩
  | some shim =>
      rw [found] at follows
      obtain ⟨large, rfl, rfl⟩ | ⟨status, small, rfl, same⟩ := Shim.verify_follows follows
      · exact ⟨by simp, fun _ _ => ⟨rfl, rfl⟩⟩
      · constructor
        · intro passed
          obtain rfl := Status.toExcept_eq_ok_iff.mp (same.symm.trans passed)
          exact ⟨shim, rfl, small, rfl⟩
        · intro _ large
          exact absurd small (Nat.not_lt.mpr large)

end Shim

section Strict

open Simulation

def flatLayout : Image.Layout where
  preferredBase := 0
  imageSize := 4
  entry := 0
  headersSize := 4
  sectionCount := 0
  sectionTable := 0
  relocations := .absent
  directoryCount := 0
  alignment := 1

def strictPlatform : InMemory where
  secureBoot := .enabled
  trustRoot := some { layout := some (.ok flatLayout) }
  medium := { files := [("/a", #[1, 2, 3, 4])], root := some ⟨1, some [0x7f, 0xff, 4, 0]⟩ }

def strictSession : Act Outcome := session none {} [['/', 'a']] .boot

def strictHistory : History platform := strictSession.history InMemory.machine strictPlatform

def entryCall? : Exchange platform → Option (UInt64 × Buffer × Status)
  | ⟨.callEntry entry bytes, status⟩ => some (entry, bytes, status)
  | _ => none

theorem entryCall?_eq_some {exchange : Exchange platform} {entry : UInt64} {bytes : Buffer}
    {status : Status} (called : entryCall? exchange = some (entry, bytes, status)) :
    exchange = ⟨.callEntry entry bytes, status⟩ := by
  obtain ⟨call, reply⟩ := exchange
  cases call <;> cases called
  rfl

def shimServices : Services := ⟨1, 2, some 3⟩

end Strict

/-- What secure boot guarantees of every session, with any surroundings; and of an image beyond 32 bits the shim is
not even asked. -/
theorem session_guarded :
    (∀ limit settings arguments finish history outcome,
      (session limit settings arguments finish).Follows history outcome →
        Guarded settings history outcome) ∧
      ∀ (services : Services) volume image history verdict,
        (services.answer volume (.verify image)).Follows history verdict →
          (verdict = .ok () → ∃ shim, services.shim = some shim ∧ image.size < 0x100000000 ∧
            history = [⟨.shimVerify shim image, Status.success⟩]) ∧
          (services.shim.isSome = true → 0x100000000 ≤ image.size →
            history = [] ∧ verdict = .error .badBufferSize) := by
  constructor
  · intro limit settings arguments finish history outcome follows
    have session := session_follows follows
    exact ⟨session.entered, session.decided.enabled, session.decided.loads, session.decided.oneWay⟩
  · intro services volume image history verdict follows
    exact Services.verify_follows follows

/-- A session with secure boot on enters an image that was verified before, and the shim is asked about it once. -/
theorem session_guarded_strict :
    (⟨.callEntry 0x101000 #[1, 2, 3, 4], Status.success⟩ : Exchange platform) ∈ strictHistory ∧
      Entered {} strictHistory (strictSession.run Simulation.InMemory.machine strictPlatform).result
        0x101000 #[1, 2, 3, 4] ∧
      ∃ shim, shimServices.shim = some shim ∧ (#[1, 2, 3, 4] : Buffer).size < 0x100000000 ∧
        ([⟨.shimVerify 3 #[1, 2, 3, 4], Status.success⟩] : History systemTable) =
          [⟨.shimVerify shim #[1, 2, 3, 4], Status.success⟩] := by
  obtain ⟨guarded, shim⟩ := session_guarded
  have called : (⟨.callEntry 0x101000 #[1, 2, 3, 4], Status.success⟩ : Exchange platform) ∈
      strictHistory := by
    have calls : strictHistory.filterMap entryCall? = [(0x101000, #[1, 2, 3, 4], Status.success)] := by
      decide +kernel
    obtain ⟨exchange, member, same⟩ :=
      List.mem_filterMap.mp (calls ▸ List.mem_singleton.mpr rfl : _ ∈ strictHistory.filterMap entryCall?)
    exact entryCall?_eq_some same ▸ member
  refine ⟨called, (guarded _ _ _ _ _ _ (Program.follows_history _ _ _)).entered called, ?_⟩
  have asked : (shimServices.answer none (.verify #[1, 2, 3, 4])).Follows
      [⟨.shimVerify 3 #[1, 2, 3, 4], Status.success⟩] (.ok ()) := ⟨Status.success, [], rfl, rfl, rfl⟩
  exact (shim _ _ _ _ _ asked).1 rfl

end EfiHandoff
