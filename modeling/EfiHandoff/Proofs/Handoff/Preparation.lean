import EfiHandoff.Proofs.Handoff.Fetching

/-!
# How a preparation goes

The ways a preparation can go, each with its history: which questions are asked, in which order, and what has
become of the handoff. Theorems about preparations go through these ways and do not open the program again.
-/

set_option autoImplicit false

namespace EfiHandoff

open Platform

def imageOf (settings : Settings) (file : Buffer) : Except BootError Buffer :=
  if settings.universalBinaries then
    (Fault.simplify (Image.selectSlice file Image.hostCpu)).map fun selected =>
      match selected with
      | some slice => file.slice slice.offset slice.size
      | none => file
  else .ok file

section Release

variable {history : History platform} {result : Unit}

theorem unload_follows {image : Handle} (follows : (unload image).Follows history result) :
    ∃ status, history = [⟨.unloadImage image, status⟩] := by
  obtain ⟨status, later, rfl, reported⟩ := Program.follows_ask.mp follows
  rw [Program.follows_report_if.mp reported]
  exact ⟨status, rfl⟩

/-- What a dropped handoff asks: that the firmware's copy is unloaded, if there is one, and that the pages go. -/
inductive Pending.Released (pending : Pending) : History platform → Prop where
  | firmware {image : Handle} {unloaded freed : Status} (route : pending.route = .firmware image) :
      Released pending [⟨.unloadImage image, unloaded⟩,
        ⟨.freePages pending.file.address pending.file.pages, freed⟩]
  | validated {freed : Status} (route : pending.route = .validated) :
      Released pending [⟨.freePages pending.file.address pending.file.pages, freed⟩]

theorem Pending.release_follows {pending : Pending} (follows : pending.release.Follows history result) :
    pending.Released history := by
  obtain ⟨⟨⟩, first, second, given, freed, rfl⟩ := Program.follows_bind.mp follows
  obtain ⟨status, rfl⟩ := PageRange.release_follows freed
  cases route : pending.route with
  | firmware image =>
      rw [route] at given
      obtain ⟨unloaded, rfl⟩ := unload_follows given
      exact .firmware route
  | validated =>
      rw [route] at given
      obtain ⟨rfl, -⟩ := given
      exact .validated route

theorem Pending.cancel_follows {pending : Pending} (follows : pending.cancel.Follows history result) :
    pending.Released history := by
  obtain ⟨⟨⟩, first, second, reported, released, rfl⟩ := Program.follows_bind.mp follows
  rw [Program.follows_report.mp reported]
  exact release_follows released

end Release

section Gate

variable {settings : Settings} {path : Bytes} {image : Buffer} {history : History platform}

inductive Gate (settings : Settings) (path : Bytes) (image : Buffer) :
    History platform → Except BootError Route → Prop where
  | forced (forced : settings.forceValidated = true) : Gate settings path image [] (.ok .validated)
  | rootless (free : settings.forceValidated = false) :
      Gate settings path image [⟨.secureBootMode, SecureBootMode.enabled⟩, ⟨.trustRoot, none⟩]
        (.error .noTrustRoot)
  | rejected {source : LayoutSource} {status : Status} (free : settings.forceValidated = false) :
      Gate settings path image [⟨.secureBootMode, SecureBootMode.enabled⟩, ⟨.trustRoot, some source⟩,
        ⟨.verify image, .error status⟩] (.error .verificationFailed)
  | verified {source : LayoutSource} (free : settings.forceValidated = false) :
      Gate settings path image [⟨.secureBootMode, SecureBootMode.enabled⟩, ⟨.trustRoot, some source⟩,
        ⟨.verify image, .ok ()⟩] (.ok .validated)
  | refused {mode : SecureBootMode} {status : Status} (free : settings.forceValidated = false)
      (open_ : mode ≠ .enabled) :
      Gate settings path image [⟨.secureBootMode, mode⟩, ⟨.loadImage path image, .error status⟩]
        (.error (if status = .outOfResources then .loaderOutOfResources else .loaderRefused status))
  | loaded {mode : SecureBootMode} {handle : Handle} (free : settings.forceValidated = false)
      (open_ : mode ≠ .enabled) :
      Gate settings path image [⟨.secureBootMode, mode⟩, ⟨.loadImage path image, .ok handle⟩]
        (.ok (.firmware handle))

theorem requireVerified_follows {verdict : Except BootError Unit}
    (follows : (requireVerified image).Follows history verdict) :
    history = [⟨.trustRoot, none⟩] ∧ verdict = .error .noTrustRoot ∨
      ∃ source reply, history = [⟨.trustRoot, some source⟩, ⟨.verify image, reply⟩] ∧
        verdict = reply.mapError fun _ => .verificationFailed := by
  obtain ⟨root, later, rfl, rooted⟩ := Attempt.follows_ask.mp follows
  clear follows
  cases root with
  | none =>
      obtain ⟨rfl, rfl⟩ := Attempt.follows_fail.mp rooted
      exact .inl ⟨rfl, rfl⟩
  | some source =>
      obtain ⟨reply, last, rfl, judged⟩ := Attempt.follows_ask.mp rooted
      clear rooted
      cases reply with
      | ok =>
          obtain ⟨rfl, rfl⟩ := Attempt.follows_report.mp judged
          exact .inr ⟨source, _, rfl, rfl⟩
      | error status =>
          obtain ⟨rfl, rfl⟩ := Attempt.follows_fail.mp judged
          exact .inr ⟨source, _, rfl, rfl⟩

theorem requireLoaded_follows {verdict : Except BootError Handle}
    (follows : (requireLoaded path image).Follows history verdict) :
    ∃ reply, history = [⟨.loadImage path image, reply⟩] ∧
      verdict = reply.mapError fun status =>
        if status = .outOfResources then .loaderOutOfResources else .loaderRefused status := by
  obtain ⟨reply, later, rfl, answered⟩ := Attempt.follows_ask.mp follows
  clear follows
  cases reply with
  | ok handle =>
      obtain ⟨rfl, rfl⟩ := Attempt.follows_pure.mp answered
      exact ⟨_, rfl, rfl⟩
  | error status =>
      obtain ⟨rfl, rfl⟩ := Attempt.follows_fail.mp answered
      exact ⟨_, rfl, rfl⟩

theorem chooseRoute_follows {verdict : Except BootError Route}
    (follows : (chooseRoute settings path image).Follows history verdict) :
    Gate settings path image history verdict := by
  unfold chooseRoute at follows
  by_cases forced : settings.forceValidated = true
  · rw [if_pos forced, Attempt.follows_report_bind] at follows
    obtain ⟨rfl, rfl⟩ := Attempt.follows_pure.mp follows
    exact .forced forced
  · have free := eq_false_of_ne_true forced
    rw [if_neg forced] at follows
    obtain ⟨(mode : SecureBootMode), later, rfl, decided⟩ := Attempt.follows_ask.mp follows
    clear follows
    by_cases enabled : mode = .enabled
    · subst enabled
      obtain ⟨error, failed, rfl⟩ | ⟨⟨⟩, first, second, passed, ended, rfl⟩ :=
        Attempt.follows_bind.mp decided
      · obtain ⟨rfl, same⟩ | ⟨source, reply, rfl, same⟩ := requireVerified_follows failed
        · cases same
          exact .rootless free
        · cases reply with
          | ok => cases same
          | error status =>
              cases same
              exact .rejected free
      · obtain ⟨rfl, rfl⟩ := Attempt.follows_pure.mp ended
        obtain ⟨-, ⟨⟩⟩ | ⟨source, reply, rfl, same⟩ := requireVerified_follows passed
        cases reply with
        | ok => exact .verified free
        | error status => cases same
    · rw [if_neg enabled] at decided
      obtain ⟨error, failed, rfl⟩ | ⟨handle, first, second, passed, ended, rfl⟩ :=
        Attempt.follows_bind.mp decided
      · obtain ⟨reply, rfl, same⟩ := requireLoaded_follows failed
        cases reply with
        | ok => cases same
        | error status =>
            cases same
            exact .refused free enabled
      · obtain ⟨rfl, rfl⟩ := Attempt.follows_pure.mp ended
        obtain ⟨reply, rfl, same⟩ := requireLoaded_follows passed
        cases reply with
        | ok =>
            cases same
            exact .loaded free enabled
        | error status => cases same

end Gate

theorem selectImage_follows {settings : Settings} {file : Buffer} {history : History platform}
    {verdict : Except BootError Buffer} (follows : (selectImage settings file).Follows history verdict) :
    history = [] ∧ verdict = imageOf settings file := by
  unfold selectImage at follows
  unfold imageOf
  by_cases universal : settings.universalBinaries = true
  · rw [if_pos universal, Attempt.follows_report_bind] at follows
    rw [if_pos universal]
    obtain ⟨error, failed, rfl⟩ | ⟨selected, first, second, chosen, ended, rfl⟩ :=
      Attempt.follows_bind.mp follows
    · obtain ⟨rfl, same⟩ := Attempt.follows_checked.mp failed
      rw [← same]
      exact ⟨rfl, rfl⟩
    · obtain ⟨rfl, same⟩ := Attempt.follows_checked.mp chosen
      rw [← same]
      cases selected with
      | none => exact Attempt.follows_pure.mp ended
      | some slice => exact Attempt.follows_pure.mp ended
  · rw [if_neg universal] at follows ⊢
    exact Attempt.follows_pure.mp follows

theorem configure_follows {pending : Pending} {history : History platform}
    {verdict : Except BootError Unit} (follows : (configure pending).Follows history verdict) :
    pending.route = .validated ∧ history = [] ∧ verdict = .ok () ∨
      ∃ image reply, pending.route = .firmware image ∧
        history = [⟨.configureImage image pending.device pending.options, reply⟩] ∧
        verdict = reply.mapError fun _ => .noImageRecord := by
  unfold configure at follows
  cases route : pending.route with
  | validated =>
      rw [route] at follows
      obtain ⟨rfl, rfl⟩ := Attempt.follows_pure.mp follows
      exact .inl ⟨rfl, rfl, rfl⟩
  | firmware image =>
      rw [route] at follows
      obtain ⟨reply, later, rfl, answered⟩ := Attempt.follows_ask.mp follows
      clear follows
      cases reply with
      | ok =>
          obtain ⟨rfl, rfl⟩ := Attempt.follows_pure.mp answered
          exact .inr ⟨image, _, rfl, rfl, rfl⟩
      | error status =>
          obtain ⟨rfl, rfl⟩ := Attempt.follows_fail.mp answered
          exact .inr ⟨image, _, rfl, rfl, rfl⟩

inductive Preparation (limit : MemoryLimit) (settings : Settings) :
    List (List Char) → History platform → Except BootError Pending → Prop where
  | nameless : Preparation limit settings [] [] (.error .missingFileName)
  | unencoded {name : List Char} {rest : List (List Char)} {error : BootError}
      (refused : Fault.simplify (LoadOptions.encode limit rest) = .error error) :
      Preparation limit settings (name :: rest) [] (.error error)
  | unread {name : List Char} {rest : List (List Char)} {first : History platform}
      {error : BootError} (failed : (fetch limit settings name).Follows first (.error error)) :
      Preparation limit settings (name :: rest) first (.error error)
  | unselected {name : List Char} {rest : List (List Char)} {first : History platform}
      {device : Handle} {path : Bytes} {file : PageRange} {error : BootError} {freed : Status}
      (fetched : (fetch limit settings name).Follows first (.ok (device, path, file)))
      (failed : imageOf settings file.bytes = .error error) :
      Preparation limit settings (name :: rest)
        (first ++ [⟨.freePages file.address file.pages, freed⟩]) (.error error)
  | stopped {name : List Char} {rest : List (List Char)} {first second : History platform}
      {device : Handle} {path : Bytes} {file : PageRange} {image : Buffer} {error : BootError}
      {freed : Status} (fetched : (fetch limit settings name).Follows first (.ok (device, path, file)))
      (selected : imageOf settings file.bytes = .ok image)
      (gate : Gate settings path image second (.error error)) :
      Preparation limit settings (name :: rest)
        (first ++ (second ++ [⟨.freePages file.address file.pages, freed⟩])) (.error error)
  | unconfigured {name : List Char} {rest : List (List Char)} {first second third : History platform}
      {pending : Pending} {handle : Handle} {status : Status}
      (fetched : (fetch limit settings name).Follows first
        (.ok (pending.device, pending.path, pending.file)))
      (selected : imageOf settings pending.file.bytes = .ok pending.image)
      (route : pending.route = .firmware handle)
      (gate : Gate settings pending.path pending.image second (.ok pending.route))
      (released : pending.Released third) :
      Preparation limit settings (name :: rest)
        (first ++ (second ++
          (⟨.configureImage handle pending.device pending.options, .error status⟩ :: third)))
        (.error .noImageRecord)
  | firmware {name : List Char} {rest : List (List Char)} {first second : History platform}
      {pending : Pending} {handle : Handle}
      (fetched : (fetch limit settings name).Follows first
        (.ok (pending.device, pending.path, pending.file)))
      (selected : imageOf settings pending.file.bytes = .ok pending.image)
      (route : pending.route = .firmware handle)
      (gate : Gate settings pending.path pending.image second (.ok pending.route)) :
      Preparation limit settings (name :: rest)
        (first ++ (second ++ [⟨.configureImage handle pending.device pending.options, .ok ()⟩]))
        (.ok pending)
  | validated {name : List Char} {rest : List (List Char)} {first second : History platform}
      {pending : Pending}
      (fetched : (fetch limit settings name).Follows first
        (.ok (pending.device, pending.path, pending.file)))
      (selected : imageOf settings pending.file.bytes = .ok pending.image)
      (route : pending.route = .validated)
      (gate : Gate settings pending.path pending.image second (.ok pending.route)) :
      Preparation limit settings (name :: rest) (first ++ second) (.ok pending)

section Prepare

variable {limit : MemoryLimit} {settings : Settings} {history : History platform}

theorem route_follows {path : Bytes} {file : PageRange} {verdict : Except BootError (Buffer × Route)}
    (follows : Attempt.Follows (Attempt.onFailure file.release do
      let image ← selectImage settings file.bytes
      let route ← chooseRoute settings path image
      return (image, route)) history verdict) :
    (∃ image route, verdict = .ok (image, route) ∧ imageOf settings file.bytes = .ok image ∧
        Gate settings path image history (.ok route)) ∨
      ∃ error first freed, verdict = .error error ∧
        history = first ++ [⟨.freePages file.address file.pages, freed⟩] ∧
        (first = [] ∧ imageOf settings file.bytes = .error error ∨
          ∃ image, imageOf settings file.bytes = .ok image ∧
            Gate settings path image first (.error error)) := by
  obtain ⟨⟨image, route⟩, chosen, rfl⟩ | ⟨error, first, second, failed, released, rfl, rfl⟩ :=
    Attempt.follows_onFailure.mp follows
  · obtain ⟨_, -, ⟨⟩⟩ | ⟨image, first, second, selected, routed, rfl⟩ :=
      Attempt.follows_bind.mp chosen
    obtain ⟨rfl, same⟩ := selectImage_follows selected
    obtain ⟨_, -, ⟨⟩⟩ | ⟨route, first, last, decided, ended, rfl⟩ := Attempt.follows_bind.mp routed
    obtain ⟨rfl, paired⟩ := Attempt.follows_pure.mp ended
    cases paired
    rw [List.append_nil]
    exact .inl ⟨image, route, rfl, same.symm, chooseRoute_follows decided⟩
  · obtain ⟨freed, rfl⟩ := PageRange.release_follows released
    refine .inr ⟨error, first, freed, rfl, rfl, ?_⟩
    obtain ⟨_, failed, ⟨⟩⟩ | ⟨image, early, second, selected, routed, rfl⟩ :=
      Attempt.follows_bind.mp failed
    · obtain ⟨rfl, same⟩ := selectImage_follows failed
      exact .inl ⟨rfl, same.symm⟩
    · obtain ⟨rfl, same⟩ := selectImage_follows selected
      obtain ⟨_, failed, ⟨⟩⟩ | ⟨route, first, last, decided, ended, rfl⟩ :=
        Attempt.follows_bind.mp routed
      · exact .inr ⟨image, same.symm, chooseRoute_follows failed⟩
      · cases (Attempt.follows_pure.mp ended).2

theorem configured_follows (pending : Pending) {name : List Char}
    {verdict : Except BootError Pending}
    (follows : Attempt.Follows (do
      Attempt.onFailure pending.release (configure pending)
      Attempt.report [pending.summary name]
      return pending) history verdict) :
    pending.route = .validated ∧ history = [] ∧ verdict = .ok pending ∨
      ∃ image, pending.route = .firmware image ∧
        (history = [⟨.configureImage image pending.device pending.options, .ok ()⟩] ∧
            verdict = .ok pending ∨
          ∃ status released, pending.Released released ∧ verdict = .error .noImageRecord ∧
            history = ⟨.configureImage image pending.device pending.options, .error status⟩ ::
              released) := by
  obtain ⟨error, failed, rfl⟩ | ⟨⟨⟩, first, last, configured, ended, rfl⟩ :=
    Attempt.follows_bind.mp follows
  · obtain ⟨_, -, ⟨⟩⟩ | ⟨_, first, second, unconfigured, released, ⟨⟩, rfl⟩ :=
      Attempt.follows_onFailure.mp failed
    obtain ⟨-, -, ⟨⟩⟩ | ⟨image, reply, route, rfl, same⟩ := configure_follows unconfigured
    cases reply with
    | ok => cases same
    | error status =>
        cases same
        exact .inr ⟨image, route,
          .inr ⟨status, second, Pending.release_follows released, rfl, rfl⟩⟩
  · rw [Attempt.follows_report_bind] at ended
    obtain ⟨rfl, rfl⟩ := Attempt.follows_pure.mp ended
    rw [List.append_nil]
    obtain ⟨⟨⟩, accepted, -⟩ | ⟨_, _, _, -, -, ⟨⟩, -⟩ := Attempt.follows_onFailure.mp configured
    obtain ⟨route, rfl, -⟩ | ⟨image, reply, route, rfl, same⟩ := configure_follows accepted
    · exact .inl ⟨route, rfl, rfl⟩
    · cases reply with
      | ok => exact .inr ⟨image, route, .inl ⟨rfl, rfl⟩⟩
      | error status => cases same

theorem prepare_follows {arguments : List (List Char)} {verdict : Except BootError Pending}
    (follows : (prepare settings arguments limit).Follows history verdict) :
    Preparation limit settings arguments history verdict := by
  cases arguments with
  | nil =>
      obtain ⟨rfl, rfl⟩ := Attempt.follows_fail.mp follows
      exact .nameless
  | cons name rest =>
      obtain ⟨error, failed, rfl⟩ | ⟨options, empty, later, encoded, reading, rfl⟩ :=
        Attempt.follows_bind.mp follows
      · obtain ⟨rfl, same⟩ := Attempt.follows_ofChecked.mp failed
        exact .unencoded same.symm
      obtain ⟨rfl, -⟩ := Attempt.follows_ofChecked.mp encoded
      rw [List.nil_append]
      obtain ⟨error, failed, rfl⟩ | ⟨⟨device, path, file⟩, first, later, fetched, routing, rfl⟩ :=
        Attempt.follows_bind.mp reading
      · exact .unread failed
      obtain ⟨error, failed, rfl⟩ | ⟨⟨image, route⟩, second, later, routed, configuring, rfl⟩ :=
        Attempt.follows_bind.mp routing
      · obtain ⟨_, _, ⟨⟩, -⟩ | ⟨_, early, freed, ⟨⟩, rfl, ⟨rfl, unselected⟩ | ⟨image, selected, gate⟩⟩ :=
          route_follows failed
        · exact .unselected fetched unselected
        · exact .stopped fetched selected gate
      obtain ⟨_, _, ⟨⟩, selected, gate⟩ | ⟨_, _, _, ⟨⟩, -⟩ := route_follows routed
      let pending : Pending := { file, image, path, options, device, route }
      have gated : Gate settings pending.path pending.image second (.ok pending.route) := gate
      obtain ⟨validated, rfl, rfl⟩ | ⟨handle, loaded, ⟨rfl, rfl⟩ |
          ⟨status, released, given, rfl, rfl⟩⟩ :=
        configured_follows pending configuring
      · rw [List.append_nil]
        exact .validated fetched selected validated gated
      · exact .firmware fetched selected loaded gated
      · exact .unconfigured fetched selected loaded gated given

end Prepare

end EfiHandoff
