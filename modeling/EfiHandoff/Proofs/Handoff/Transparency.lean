import EfiHandoff.Proofs.Handoff.Likeness
import EfiHandoff.Proofs.Handoff.SecureBoot
import EfiHandoff.Proofs.Image.Container

/-!
# Universal binaries are transparent

A session with a universal binary and one with the image it carries as a file of its own ask the same of the firmware,
as far as it is not about the file and the pages for it, and end the same.
-/

set_option autoImplicit false

namespace EfiHandoff

open Platform

section Shared

variable {image : Buffer}

private theorem requireRoot_shared : requireRoot.Confined Platform.Call.Shared := by
  refine ⟨trivial, fun reply => ?_⟩
  rcases reply with _ | ⟨handle, _ | path⟩ <;> exact trivial

private theorem buildPath_shared {limit : MemoryLimit} {device : Bytes} {name : List Char} :
    (buildPath limit device name).Confined Platform.Call.Shared := by
  refine (Attempt.confined_report _).bind fun _ => (Attempt.confined_checked _).bind fun path => ?_
  split <;> exact (Attempt.confined_report _).bind fun _ => trivial

private theorem requireVerified_shared : (requireVerified image).Confined Platform.Call.Shared := by
  refine ⟨trivial, fun source => ?_⟩
  cases source with
  | none => exact trivial
  | some source =>
      refine ⟨trivial, fun verdict => ?_⟩
      cases verdict <;> exact trivial

private theorem chooseRoute_shared {settings : Settings} {path : Bytes} :
    (chooseRoute settings path image).Confined Platform.Call.Shared := by
  unfold chooseRoute
  split
  · exact (Attempt.confined_report _).bind fun _ => trivial
  · refine Attempt.Confined.bind (Attempt.confined_lift ⟨trivial, fun _ => trivial⟩) fun mode => ?_
    split
    · exact Attempt.Confined.bind requireVerified_shared fun _ => trivial
    · refine Attempt.Confined.bind ⟨trivial, fun reply => ?_⟩ fun _ => trivial
      cases reply <;> exact trivial

private theorem unload_shared (handle : Handle) : (unload handle).Confined Platform.Call.Shared :=
  ⟨trivial, fun _ => Program.confined_report_if⟩

private theorem releaseRoute_shared (route : Route) : route.release.Confined Platform.Call.Shared := by
  cases route with
  | firmware handle => exact unload_shared handle
  | validated => exact trivial

private theorem configure_shared (pending : Pending) : (configure pending).Confined Platform.Call.Shared := by
  unfold configure
  split
  · exact trivial
  · refine ⟨trivial, fun reply => ?_⟩
    cases reply <;> exact trivial

private theorem releasePool_shared (buffer : PoolBuffer) : buffer.release.Confined Platform.Call.Shared :=
  ⟨trivial, fun _ => Program.confined_report_if⟩

private theorem startLoaded_shared (handle : Handle) : (Pending.startLoaded handle).Confined Platform.Call.Shared := by
  refine (Attempt.confined_report _).bind fun _ => Attempt.Confined.bind ⟨trivial, fun _ => trivial⟩ fun ending => ?_
  refine (Attempt.confined_lift (unload_shared handle)).bind fun _ => ?_
  split <;> exact trivial

private theorem layout_shared : (Pending.layout image).Confined Platform.Call.Shared := by
  refine Attempt.Confined.bind ⟨trivial, fun _ => trivial⟩ fun source => ?_
  split
  · exact ⟨trivial, fun _ => trivial⟩
  · exact (Attempt.confined_report _).bind fun _ => Attempt.confined_checked _

private theorem enter_shared {record : ImageRecord} {loaded : Image.Loaded} :
    (Pending.enter record loaded).Confined Platform.Call.Shared := by
  refine ⟨trivial, fun saved => ?_⟩
  cases saved with
  | none => exact trivial
  | some saved =>
      refine ⟨trivial, fun _ => (Attempt.confined_report _).bind fun _ => ?_⟩
      exact ⟨trivial, fun _ => ⟨trivial, fun _ => trivial⟩⟩

end Shared

section Coupled

variable {container image : Buffer} {α : Type}

/-- An attempt that asks only what is shared goes the same way in both sessions. -/
theorem coupled_of_shared {attempt : Try α} (confined : attempt.Confined Platform.Call.Shared) :
    Attempt.Coupled (Alike container image) (· = ·) attempt attempt :=
  Attempt.Confined.coupled (Program.Confined.mono confined fun _ => settles_of_shared)

private theorem coupled_act_of_shared {program : Act α} (confined : program.Confined Platform.Call.Shared) :
    program.Coupled (Alike container image) (· = ·) program :=
  (confined.mono fun _ => settles_of_shared).coupled

/-- Pages at the same place in both sessions, as many as the file of each needs. -/
structure SamePages (container image : Buffer) (left right : PageRange) : Prop where
  address : left.address = right.address
  left : left.pages = pagesFor container.size
  right : right.pages = pagesFor image.size

private theorem coupled_releaseAt {address : UInt64} :
    (PageRange.releaseAt address (pagesFor container.size)).Coupled (Alike container image) (· = ·)
      (PageRange.releaseAt address (pagesFor image.size)) := by
  refine .ask ⟨Status.success, Status.success, .freed⟩ fun reply answer same => ?_
  obtain rfl := same.freePages_replies
  exact Program.coupled_report_if

theorem SamePages.release {left right : PageRange} (same : SamePages container image left right) :
    left.release.Coupled (Alike container image) (· = ·) right.release := by
  unfold PageRange.release
  rw [same.address, same.left, same.right]
  exact coupled_releaseAt

private theorem coupled_reserve :
    Attempt.Coupled (Alike container image) (fun left right => SamePages container image left.1 right.1)
      (PageRange.reserve .code container.size) (PageRange.reserve .code image.size) := by
  unfold PageRange.reserve
  refine Attempt.coupled_ask ⟨.error .success, .error .success, .unreserved⟩ fun reply answer same => ?_
  obtain ⟨status, rfl, rfl⟩ | ⟨grant, other, rfl, rfl, place⟩ := same.allocatePages_replies
  · exact Attempt.coupled_report_bind Attempt.coupled_throw
  · dsimp only
    rw [place]
    split
    · exact (Attempt.coupled_report_bind Attempt.coupled_throw).ensuring coupled_releaseAt
    · exact Attempt.coupled_pure ⟨rfl, rfl, rfl⟩

/-- What is fetched in two sessions: all but the file itself is the same. -/
structure SameFetch (container image : Buffer) (left right : Handle × Bytes × PageRange) : Prop where
  device : left.1 = right.1
  path : left.2.1 = right.2.1
  pages : SamePages container image left.2.2 right.2.2
  left : left.2.2.bytes = container
  right : right.2.2.bytes = image

private theorem coupled_readPages {name : List Char} {left right : OpenFile}
    (same : SameFile container image left right) :
    Attempt.Coupled (Alike container image)
      (fun first second => SamePages container image first second ∧ first.bytes = container ∧ second.bytes = image)
      (readPages name left container.size) (readPages name right image.size) := by
  unfold readPages
  refine coupled_reserve.bind fun first second reserved => ?_
  obtain ⟨pages, grant⟩ := first
  obtain ⟨others, other⟩ := second
  refine Attempt.Coupled.onFailure ?_ reserved.release
  refine Attempt.coupled_ask ⟨⟨container, none⟩, ⟨image, none⟩, .read same⟩ fun reply answer told => ?_
  obtain ⟨before, others, error, rfl, rfl⟩ | ⟨rfl, rfl⟩ := told.readFile_replies
  · exact Attempt.coupled_fail
  · exact Attempt.coupled_pure ⟨⟨reserved.address, reserved.left, reserved.right⟩, rfl, rfl⟩

private theorem acceptSize_of_accepted {settings : Settings} {name : List Char} {size : UInt64}
    (nonempty : size.toNat ≠ 0)
    (small : size.toNat ≤ settings.maxImageSize.toNat) : acceptSize settings name size = pure size.toNat := by
  have filled : size ≠ 0 := fun zero => nonempty (congrArg UInt64.toNat zero)
  have within : ¬ settings.maxImageSize < size := by
    rw [UInt64.lt_iff_toNat_lt]
    omega
  unfold acceptSize
  rw [if_neg filled, if_neg within]

structure Accepted (settings : Settings) (file : Buffer) : Prop where
  nonempty : file.size ≠ 0
  small : file.size ≤ settings.maxImageSize.toNat

private theorem coupled_fetch {limit : MemoryLimit} {settings : Settings} {name : List Char}
    (first : Accepted settings container) (second : Accepted settings image) :
    Attempt.Coupled (Alike container image) (SameFetch container image) (fetch limit settings name)
      (fetch limit settings name) := by
  unfold fetch withFile
  refine Attempt.coupled_ask ⟨.error .notFound, .error .notFound, .unopened⟩ fun reply answer told => ?_
  obtain ⟨error, rfl, rfl⟩ | ⟨left, right, rfl, rfl, same⟩ := told.openFile_replies
  · exact Attempt.coupled_fail
  refine Attempt.Coupled.ensuring ?_ (.ask ⟨(), (), .closed same⟩ fun _ _ _ => .done rfl)
  refine (coupled_of_shared requireRoot_shared).bind fun root other rooted => ?_
  subst rooted
  obtain ⟨device, devicePath⟩ := root
  refine (coupled_of_shared buildPath_shared).bind fun path other built => ?_
  subst built
  rw [acceptSize_of_accepted (same.left ▸ first.nonempty) (same.left ▸ first.small),
    acceptSize_of_accepted (same.right ▸ second.nonempty) (same.right ▸ second.small)]
  rw [same.left, same.right, pure_bind, pure_bind]
  refine (coupled_readPages same).bind fun pages others filled => ?_
  exact Attempt.coupled_pure ⟨rfl, rfl, filled.1, filled.2.1, filled.2.2⟩

private theorem coupled_selectImage {settings : Settings} {index : Nat} (enabled : settings.universalBinaries = true)
    (carries : Image.Carries container Image.hostCpu index image)
    (plain : Image.isContainer image = false) :
    Attempt.Coupled (Alike container image) (fun left right => left = image ∧ right = image)
      (selectImage settings container) (selectImage settings image) := by
  have whole : Image.selectSlice image Image.hostCpu = .ok none := by
    unfold Image.selectSlice
    rw [plain]
    rfl
  unfold selectImage
  rw [if_pos enabled, if_pos enabled, carries.selectSlice, whole]
  refine Attempt.coupled_report_bind ?_
  exact Attempt.coupled_pure ⟨carries.holds, rfl⟩

private theorem coupled_choose {settings : Settings} {path : Bytes} {index : Nat}
    (enabled : settings.universalBinaries = true)
    (carries : Image.Carries container Image.hostCpu index image)
    (plain : Image.isContainer image = false) :
    Attempt.Coupled (Alike container image) (fun left right => left = right ∧ left.1 = image)
      (do
        let image ← selectImage settings container
        let route ← chooseRoute settings path image
        return (image, route))
      (do
        let image ← selectImage settings image
        let route ← chooseRoute settings path image
        return (image, route)) := by
  refine (coupled_selectImage enabled carries plain).bind fun left right chosen => ?_
  obtain ⟨rfl, rfl⟩ := chosen
  refine (coupled_of_shared chooseRoute_shared).bind fun route other routed => ?_
  subst routed
  exact Attempt.coupled_pure ⟨rfl, rfl⟩

/-- What is prepared in two sessions: the image itself, and all but the pages with the file is the same. -/
structure SamePending (container image : Buffer) (left right : Pending) : Prop where
  file : SamePages container image left.file right.file
  path : left.path = right.path
  options : left.options = right.options
  device : left.device = right.device
  route : left.route = right.route
  left : left.image = image
  right : right.image = image

namespace SamePending

variable {left right : Pending}

theorem release (same : SamePending container image left right) :
    left.release.Coupled (Alike container image) (· = ·) right.release := by
  unfold Pending.release
  rw [same.route]
  exact (coupled_act_of_shared (releaseRoute_shared _)).bind fun _ _ _ => same.file.release

theorem configure (same : SamePending container image left right) :
    Attempt.Coupled (Alike container image) (· = ·) (configure left) (configure right) := by
  have equal : EfiHandoff.configure left = EfiHandoff.configure right := by
    unfold EfiHandoff.configure
    rw [same.route, same.device, same.options]
  rw [equal]
  exact coupled_of_shared (configure_shared right)

end SamePending

theorem coupled_prepare {limit : MemoryLimit} {settings : Settings} {arguments : List (List Char)} {index : Nat}
    (enabled : settings.universalBinaries = true)
    (carries : Image.Carries container Image.hostCpu index image) (plain : Image.isContainer image = false)
    (first : Accepted settings container) (second : Accepted settings image) :
    Attempt.Coupled (Alike container image) (SamePending container image) (prepare settings arguments limit)
      (prepare settings arguments limit) := by
  cases arguments with
  | nil => exact Attempt.coupled_fail
  | cons name rest =>
      refine (coupled_of_shared (Attempt.confined_ofChecked _)).bind fun options other encoded => ?_
      subst encoded
      refine (coupled_fetch first second).bind fun left right fetched => ?_
      obtain ⟨device, path, file⟩ := left
      obtain ⟨_, _, other⟩ := right
      obtain ⟨rfl, rfl, pages, whole, alone⟩ := fetched
      change file.bytes = container at whole
      change other.bytes = image at alone
      dsimp only
      rw [whole, alone]
      refine ((coupled_choose enabled carries plain).onFailure pages.release).bind fun left right chosen => ?_
      obtain ⟨rfl, selected⟩ := chosen
      have same : SamePending container image ⟨file, left.1, path, options, device, left.2⟩
          ⟨other, left.1, path, options, device, left.2⟩ := ⟨pages, rfl, rfl, rfl, rfl, selected, selected⟩
      refine (same.configure.onFailure same.release).bind fun _ _ _ => ?_
      exact Attempt.coupled_report_bind (Attempt.coupled_pure same)

private theorem coupled_allocatePool {kind : MemoryKind} {size : Nat} :
    Attempt.Coupled (Alike container image) (· = ·) (PoolBuffer.allocate kind size)
      (PoolBuffer.allocate kind size) := by
  refine Attempt.coupled_ask ⟨.error .success, .error .success, .ungranted⟩ fun reply answer told => ?_
  obtain ⟨status, rfl, rfl⟩ | ⟨grant, other, rfl, rfl, place⟩ := told.allocatePool_replies
  · exact Attempt.coupled_report_bind Attempt.coupled_throw
  · dsimp only
    rw [place]
    exact Attempt.coupled_pure rfl

private theorem coupled_load {file : Buffer} {layout : Image.Layout} :
    Attempt.Coupled (Alike container image) (· = ·) (Image.load file layout) (Image.load file layout) := by
  -- of a grant only the address is read, so the windows are the same and the rest asks nothing
  have window : Attempt.Coupled (Alike container image) (· = ·) (Image.Window.allocate layout)
      (Image.Window.allocate layout) := by
    refine (coupled_of_shared (Attempt.confined_ofChecked _)).bind fun size other sized => ?_
    subst sized
    refine coupled_allocatePool.bind fun buffer other granted => ?_
    subst granted
    refine coupled_of_shared (Attempt.Confined.onFailure ?_ (releasePool_shared buffer))
    exact (Attempt.confined_ofChecked _).bind fun _ => (Attempt.confined_report _).bind fun _ => trivial
  refine window.bind fun window other chosen => ?_
  subst chosen
  refine coupled_of_shared (Attempt.Confined.onFailure ?_ (releasePool_shared window.buffer))
  refine (Image.fill_confined _ _).bind fun filled => (Image.settle_confined _ _ _).bind fun settled => ?_
  exact (Attempt.confined_report _).bind fun _ => trivial

theorem SamePending.startValidated {left right : Pending} (same : SamePending container image left right) :
    Attempt.Coupled (Alike container image) (· = ·) left.startValidated right.startValidated := by
  have fileName : left.fileName = right.fileName := by
    unfold Pending.fileName
    rw [same.path]
  have record : left.record = right.record := by
    unfold Pending.record
    rw [same.options, same.device]
  unfold Pending.startValidated
  rw [same.left, same.right, fileName, record]
  refine (coupled_of_shared layout_shared).bind fun layout other read => ?_
  subst read
  refine coupled_load.bind fun loaded other laid => ?_
  subst laid
  refine coupled_of_shared (Attempt.Confined.bind ?_ fun status => ?_)
  · refine Attempt.Confined.ensuring ?_ (releasePool_shared loaded.window.buffer)
    exact (Pending.fileName_confined _ _).bind fun _ => enter_shared
  · split <;> exact trivial

theorem SamePending.start {left right : Pending} (same : SamePending container image left right) :
    Attempt.Coupled (Alike container image) (· = ·) left.start right.start := by
  unfold Pending.start
  rw [same.route]
  refine Attempt.Coupled.ensuring ?_ same.file.release
  cases right.route with
  | firmware handle => exact coupled_of_shared (startLoaded_shared handle)
  | validated => exact same.startValidated

/-- Two sessions fail with the same error, or prepare the same image and end the same with it. -/
inductive SameOutcome (container image : Buffer) : Outcome → Outcome → Prop
  | refused {error : BootError} : SameOutcome container image (.refused error) (.refused error)
  | booted {left right : Pending} {verdict : Except BootError Unit} (same : SamePending container image left right) :
      SameOutcome container image (.booted left verdict) (.booted right verdict)
  | dropped {left right : Pending} (same : SamePending container image left right) :
      SameOutcome container image (.dropped left) (.dropped right)

theorem SamePending.finish {left right : Pending} {finish : Finish} (same : SamePending container image left right) :
    (left.finish finish).Coupled (Alike container image) (SameOutcome container image) (right.finish finish) := by
  cases finish with
  | boot =>
      refine Program.Coupled.bind same.start fun verdict other ended => .done ?_
      cases ended with
      | error => exact .booted same
      | ok => exact .booted same
  | unload =>
      refine ((Program.coupled_report _ _).bind fun _ _ _ => same.release).bind fun _ _ _ => ?_
      exact .done (.dropped same)
  | drop => exact same.release.bind fun _ _ _ => .done (.dropped same)

theorem coupled_session {limit : MemoryLimit} {settings : Settings} {arguments : List (List Char)} {finish : Finish}
    {index : Nat} (enabled : settings.universalBinaries = true)
    (carries : Image.Carries container Image.hostCpu index image) (plain : Image.isContainer image = false)
    (first : Accepted settings container) (second : Accepted settings image) :
    (session limit settings arguments finish).Coupled (Alike container image) (SameOutcome container image)
      (session limit settings arguments finish) := by
  refine Program.Coupled.bind (coupled_prepare enabled carries plain first second) fun verdict other prepared => ?_
  cases prepared with
  | error => exact .done .refused
  | ok same => exact same.finish

end Coupled

/-- A session with a universal binary is one with the image in it: whatever is not about the file and the memory is
asked at the same place, in the same words and with the same answer, and both end the same. -/
theorem session_through_container {limit : MemoryLimit} {settings : Settings} {arguments : List (List Char)}
    {finish : Finish} {container image : Buffer} {index : Nat} {lefts rights : History platform} {left right : Outcome}
    (enabled : settings.universalBinaries = true)
    (carries : Image.Carries container Image.hostCpu index image) (plain : Image.isContainer image = false)
    (nonempty : image.size ≠ 0) (small : container.size ≤ settings.maxImageSize.toNat)
    (followsLeft : (session limit settings arguments finish).Follows lefts left)
    (followsRight : (session limit settings arguments finish).Follows rights right)
    (told : ToldAlike (Alike container image) lefts rights) :
    List.Forall₂ (Alike container image) lefts rights ∧
      (∀ (place : Nat) (exchange : Exchange platform), exchange.call.Shared →
        (lefts[place]? = some exchange ↔ rights[place]? = some exchange)) ∧
      SameOutcome container image left right := by
  have size := carries.size_le
  have first : Accepted settings container := ⟨by omega, small⟩
  have second : Accepted settings image := ⟨nonempty, size.trans small⟩
  obtain ⟨alike, ended⟩ :=
    (coupled_session enabled carries plain first second).runs followsLeft followsRight told
  exact ⟨alike, fun place exchange shared => Alike.shared_at alike place shared, ended⟩

section Strict

open Simulation

def flatImage : Buffer := #[1, 2, 3, 4]

def flatContainer : Buffer :=
  ([0xb9, 0xfa, 0xf1, 0x0e, 2, 0, 0, 0] ++ [7, 0, 0, 0, 3, 0, 0, 0, 48, 0, 0, 0, 4, 0, 0, 0, 0, 0, 0, 0] ++
    [7, 0, 0, 1, 3, 0, 0, 0, 52, 0, 0, 0, 4, 0, 0, 0, 0, 0, 0, 0] ++ [9, 9, 9, 9, 1, 2, 3, 4] : Bytes).toArray

private theorem flatContainer_carries : Image.Carries flatContainer Image.hostCpu 1 flatImage := by
  constructor
  all_goals decide +kernel

def strictWith (file : Buffer) : Machine platform Unit :=
  oneFile (fun call => (InMemory.machine.answer call strictPlatform).1) file

end Strict

/-- Out of its container, the image is entered with the same bytes in the same place. -/
theorem session_through_container_strict :
    (strictSession.history (strictWith flatContainer) ())[13]? =
        some (⟨.callEntry 0x100000 flatImage, Status.success⟩ : Exchange platform) ∧
      SameOutcome flatContainer flatImage (strictSession.run (strictWith flatContainer) ()).result
        (strictSession.run (strictWith flatImage) ()).result := by
  obtain ⟨-, shared, ended⟩ := session_through_container rfl flatContainer_carries (by decide +kernel) (by decide)
    (by decide +kernel)
    (Program.follows_history (strictWith flatContainer) strictSession ())
    (Program.follows_history (strictWith flatImage) strictSession ())
    (oneFile_told (by decide +kernel) (by decide) (Machine.gives_history _ _ _) (Machine.gives_history _ _ _))
  refine ⟨(shared 13 ⟨.callEntry 0x100000 flatImage, Status.success⟩ trivial).mpr ?_, ended⟩
  have entered : ((strictSession.history (strictWith flatImage) ())[13]?.bind entryCall?) =
      some (0x100000, flatImage, Status.success) := by
    decide +kernel
  obtain ⟨exchange, found, called⟩ := Option.bind_eq_some_iff.mp entered
  obtain rfl := entryCall?_eq_some called
  exact found

end EfiHandoff
