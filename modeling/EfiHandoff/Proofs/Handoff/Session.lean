import EfiHandoff.Proofs.Handoff.Starting

/-!
# Sessions

A whole life of a handoff: it is prepared, and what was prepared is then booted, unloaded or dropped. The ways a
session can go are put together from those of its parts.
-/

set_option autoImplicit false

namespace EfiHandoff

open Platform

inductive Finish
  | boot
  | unload
  | drop
deriving DecidableEq, Repr

inductive Outcome
  | refused (error : BootError)
  | booted (pending : Pending) (verdict : Except BootError Unit)
  | dropped (pending : Pending)

def Outcome.pending? : Outcome → Option Pending
  | .refused _ => none
  | .booted pending _ => some pending
  | .dropped pending => some pending

def Pending.finish (pending : Pending) : Finish → Act Outcome
  | .boot => do return .booted pending (← pending.start.run)
  | .unload => do
      pending.cancel
      return .dropped pending
  | .drop => do
      pending.release
      return .dropped pending

def session (limit : MemoryLimit) (settings : Settings) (arguments : List (List Char)) (finish : Finish) :
    Act Outcome := do
  match ← (prepare settings arguments limit).run with
  | .error error => return .refused error
  | .ok pending => pending.finish finish

inductive Session (limit : MemoryLimit) (settings : Settings) (arguments : List (List Char)) :
    Finish → History platform → Outcome → Prop where
  | refused {finish : Finish} {history : History platform} {error : BootError}
      (prepared : Preparation limit settings arguments history (.error error)) :
      Session limit settings arguments finish history (.refused error)
  | booted {first second : History platform} {pending : Pending} {verdict : Except BootError Unit}
      (prepared : Preparation limit settings arguments first (.ok pending))
      (started : pending.Start second verdict) :
      Session limit settings arguments .boot (first ++ second) (.booted pending verdict)
  | dropped {finish : Finish} {first second : History platform} {pending : Pending}
      (prepared : Preparation limit settings arguments first (.ok pending))
      (released : pending.Released second) (unbooted : finish ≠ .boot) :
      Session limit settings arguments finish (first ++ second) (.dropped pending)

theorem Pending.finish_follows {pending : Pending} {finish : Finish} {history : History platform}
    {outcome : Outcome} (follows : (pending.finish finish).Follows history outcome) :
    (∃ verdict, finish = .boot ∧ outcome = .booted pending verdict ∧ pending.Start history verdict) ∨
      outcome = .dropped pending ∧ pending.Released history ∧ finish ≠ .boot := by
  cases finish with
  | boot =>
      obtain ⟨verdict, first, second, started, ⟨rfl, rfl⟩, rfl⟩ := Program.follows_bind.mp follows
      rw [List.append_nil]
      exact .inl ⟨verdict, rfl, rfl, start_follows started⟩
  | unload =>
      obtain ⟨⟨⟩, first, second, canceled, ⟨rfl, rfl⟩, rfl⟩ := Program.follows_bind.mp follows
      rw [List.append_nil]
      exact .inr ⟨rfl, cancel_follows canceled, nofun⟩
  | drop =>
      obtain ⟨⟨⟩, first, second, released, ⟨rfl, rfl⟩, rfl⟩ := Program.follows_bind.mp follows
      rw [List.append_nil]
      exact .inr ⟨rfl, release_follows released, nofun⟩

theorem session_follows {limit : MemoryLimit} {settings : Settings} {arguments : List (List Char)}
    {finish : Finish} {history : History platform} {outcome : Outcome}
    (follows : (session limit settings arguments finish).Follows history outcome) :
    Session limit settings arguments finish history outcome := by
  obtain ⟨prepared, first, second, preparing, finishing, rfl⟩ := Program.follows_bind.mp follows
  have preparation := prepare_follows preparing
  cases prepared with
  | error error =>
      obtain ⟨rfl, rfl⟩ := Program.follows_pure.mp finishing
      rw [List.append_nil]
      exact .refused preparation
  | ok pending =>
      obtain ⟨verdict, rfl, rfl, started⟩ | ⟨rfl, released, unbooted⟩ :=
        Pending.finish_follows finishing
      · exact .booted preparation started
      · exact .dropped preparation released unbooted

section Calls

def Platform.Call.Prepares : Platform.Call → Prop
  | .secureBootMode | .trustRoot | .verify _ | .loadImage _ _ | .configureImage _ _ _
  | .unloadImage _ => True
  | call => call.ReadsFile

def Platform.Call.Enters : Platform.Call → Prop
  | .trustRoot | .layoutOf _ | .allocatePool _ _ | .freePool _ | .snapshot | .install _
  | .callEntry _ _ | .restore _ | .freePages _ _ => True
  | _ => False

theorem Platform.Call.ReadsFile.prepares {call : Platform.Call} (reads : call.ReadsFile) :
    call.Prepares := by
  cases call <;> trivial

variable {limit : MemoryLimit} {settings : Settings} {history : History platform} {pending : Pending}

theorem Gate.prepares {path : Bytes} {image : Buffer} {verdict : Except BootError Route}
    (gate : Gate settings path image history verdict) :
    ∀ exchange ∈ history, Call.Prepares exchange.call := by
  cases gate <;> simp [Call.Prepares]

theorem Pending.Released.prepares (released : pending.Released history) :
    ∀ exchange ∈ history, Call.Prepares exchange.call := by
  cases released <;> simp [Call.Prepares, Call.ReadsFile]

theorem Preparation.prepares {arguments : List (List Char)} {verdict : Except BootError Pending}
    (preparation : Preparation limit settings arguments history verdict) :
    ∀ exchange ∈ history, Call.Prepares exchange.call := by
  have reads {name : List Char} {first : History platform}
      {verdict : Except BootError (Handle × Bytes × PageRange)}
      (fetched : (fetch limit settings name).Follows first verdict) :
      ∀ exchange ∈ first, Call.Prepares exchange.call :=
    fun exchange member => ((fetch_follows fetched).reads exchange member).prepares
  cases preparation with
  | nameless => exact List.forall_mem_nil _
  | unencoded => exact List.forall_mem_nil _
  | unread failed => exact reads failed
  | unselected fetched =>
      exact List.forall_mem_append.mpr ⟨reads fetched, by simp [Call.Prepares, Call.ReadsFile]⟩
  | stopped fetched _ gate =>
      exact List.forall_mem_append.mpr ⟨reads fetched, List.forall_mem_append.mpr
        ⟨gate.prepares, by simp [Call.Prepares, Call.ReadsFile]⟩⟩
  | unconfigured fetched _ _ gate released =>
      exact List.forall_mem_append.mpr ⟨reads fetched, List.forall_mem_append.mpr
        ⟨gate.prepares, List.forall_mem_cons.mpr ⟨trivial, released.prepares⟩⟩⟩
  | firmware fetched _ _ gate =>
      exact List.forall_mem_append.mpr ⟨reads fetched, List.forall_mem_append.mpr
        ⟨gate.prepares, by simp [Call.Prepares]⟩⟩
  | validated fetched _ _ gate =>
      exact List.forall_mem_append.mpr ⟨reads fetched, gate.prepares⟩

theorem Image.Loading.enters {layout : Image.Layout} {verdict : Except BootError Image.Loaded}
    (loading : Image.Loading layout history verdict) :
    ∀ exchange ∈ history, Call.Enters exchange.call := by
  cases loading <;> simp [Call.Enters]

private theorem Pending.layout_enters {image : Buffer} {verdict : Except BootError Image.Layout}
    (follows : (layout image).Follows history verdict) :
    ∀ exchange ∈ history, Call.Enters exchange.call := by
  obtain rfl | ⟨source, -, rfl, -⟩ := layout_follows follows <;> simp [Call.Enters]

theorem Pending.ValidatedStart.enters {verdict : Except BootError Unit}
    (started : pending.ValidatedStart history verdict) :
    ∀ exchange ∈ history, Call.Enters exchange.call := by
  cases started with
  | unparsed failed => exact layout_enters failed
  | unloaded parsed failed =>
      exact List.forall_mem_append.mpr ⟨layout_enters parsed, (Image.load_follows failed).enters⟩
  | unnamed parsed loading =>
      exact List.forall_mem_append.mpr ⟨layout_enters parsed, List.forall_mem_append.mpr
        ⟨(Image.load_follows loading).enters, by simp [Call.Enters]⟩⟩
  | recordless parsed loading =>
      exact List.forall_mem_append.mpr ⟨layout_enters parsed, List.forall_mem_append.mpr
        ⟨(Image.load_follows loading).enters, by simp [Call.Enters]⟩⟩
  | entered parsed loading =>
      exact List.forall_mem_append.mpr ⟨layout_enters parsed, List.forall_mem_append.mpr
        ⟨(Image.load_follows loading).enters, by simp [Call.Enters]⟩⟩

end Calls

end EfiHandoff
