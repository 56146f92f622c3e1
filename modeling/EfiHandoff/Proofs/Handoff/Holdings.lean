import EfiHandoff.Proofs.Handoff.Session
import EfiHandoff.Proofs.Program.Account

/-!
# What a session holds

Files, memory, firmware images and the swapped record are held from the exchange that acquires them to the one that
gives them back. A session first acquires; then it unwinds, and gives back what it holds in the reverse order. From
that it follows that it gives back everything, once.
-/

set_option autoImplicit false

namespace EfiHandoff

open Platform

/-- Memory that was handed out, under what it is freed by. -/
inductive Allocation
  | pool (address : UInt64)
  | pages (address : UInt64) (count : Nat)
deriving DecidableEq, Repr

inductive Resource
  | file (file : OpenFile)
  | memory (allocation : Allocation)
  | image (handle : Handle)
  /-- The record of the running loader, while it describes another image. -/
  | record
deriving DecidableEq, Repr

def Resource.allocation? : Resource → Option Allocation
  | .memory allocation => some allocation
  | _ => none

namespace Platform

def resources : Account platform Resource where
  effect
    | ⟨.openFile _, .ok file⟩ => .acquire (.file file)
    | ⟨.closeFile file, _⟩ => .release (.file file)
    | ⟨.allocatePool _ _, .ok grant⟩ => .acquire (.memory (.pool grant.address))
    | ⟨.freePool address, _⟩ => .release (.memory (.pool address))
    | ⟨.allocatePages _ pages, .ok grant⟩ => .acquire (.memory (.pages grant.address pages))
    | ⟨.freePages address pages, _⟩ => .release (.memory (.pages address pages))
    | ⟨.loadImage _ _, .ok handle⟩ => .acquire (.image handle)
    | ⟨.unloadImage handle, _⟩ => .release (.image handle)
    | ⟨.install _, _⟩ => .acquire .record
    | ⟨.restore _, _⟩ => .release .record
    | _ => .idle

def allocations : Account platform Allocation := resources.restrict Resource.allocation?

end Platform

/-- Nothing is given back but a file, right after it was read to its end. -/
inductive Retains : History platform → Prop
  | nil : Retains []
  | keeps {exchange : Exchange platform} {later : History platform}
      (kept : (resources.effect exchange).released? = none) (rest : Retains later) :
      Retains (exchange :: later)
  | closes {file : OpenFile} {size : Nat} {bytes : Buffer} {later : History platform}
      (rest : Retains later) :
      Retains (⟨.readFile file size, ⟨bytes, none⟩⟩ :: ⟨.closeFile file, ()⟩ :: later)

theorem Retains.append {first second : History platform} (early : Retains first)
    (late : Retains second) : Retains (first ++ second) := by
  induction early with
  | nil => exact late
  | keeps kept _ ih => exact .keeps kept ih
  | closes _ ih => exact .closes ih

/-- Starting out with some things held, a history acquires others and keeps them. -/
structure Acquires (start : List Resource) (history : History platform) (finish : List Resource) :
    Prop where
  retains : Retains history
  moves : resources.Moves start history finish

/-- A history goes on acquiring up to some point. From there on it gives back what is held by then, the last
acquired first, and does nothing else. -/
def Unwinds (start : List Resource) (history : History platform) : Prop :=
  ∃ before after held, history = before ++ after ∧ Acquires start before held ∧
    resources.Returns held after

section Rules

variable {start middle finish others : List Resource} {first second history : History platform}
  {exchange : Exchange platform} {thing : Resource}

namespace Acquires

theorem nil : Acquires start [] start := ⟨.nil, .nil⟩

theorem acquire (effect : resources.effect exchange = .acquire thing)
    (rest : Acquires (thing :: start) history finish) : Acquires start (exchange :: history) finish where
  retains := .keeps (congrArg Effect.released? effect) rest.retains
  moves := .acquire effect rest.moves

theorem idle (effect : resources.effect exchange = .idle) (rest : Acquires start history finish) :
    Acquires start (exchange :: history) finish where
  retains := .keeps (congrArg Effect.released? effect) rest.retains
  moves := .idle effect rest.moves

theorem append (early : Acquires start first middle) (late : Acquires middle second finish) :
    Acquires start (first ++ second) finish :=
  ⟨early.retains.append late.retains, early.moves.append late.moves⟩

theorem frame (acquires : Acquires start history finish) (others : List Resource) :
    Acquires (start ++ others) history (finish ++ others) :=
  ⟨acquires.retains, acquires.moves.frame others⟩

theorem unwinds (early : Acquires start first middle) (late : resources.Returns middle second) :
    Unwinds start (first ++ second) :=
  ⟨first, second, middle, rfl, early, late⟩

end Acquires

namespace Unwinds

theorem after (unwinds : Unwinds middle second) (early : Acquires start first middle) :
    Unwinds start (first ++ second) := by
  obtain ⟨before, after, held, rfl, acquires, returns⟩ := unwinds
  rw [← List.append_assoc]
  exact (early.append acquires).unwinds returns

theorem within (unwinds : Unwinds start first) (returns : resources.Returns others second) :
    Unwinds (start ++ others) (first ++ second) := by
  obtain ⟨before, after, held, rfl, acquires, given⟩ := unwinds
  rw [List.append_assoc]
  exact (acquires.frame others).unwinds (given.append returns)

theorem moves (unwinds : Unwinds start history) : resources.Moves start history [] := by
  obtain ⟨before, after, held, rfl, acquires, returns⟩ := unwinds
  exact acquires.moves.append returns.moves

end Unwinds

end Rules

def PageRange.resource (range : PageRange) : Resource :=
  .memory (.pages range.address range.pages)

def PoolBuffer.resource (buffer : PoolBuffer) : Resource := .memory (.pool buffer.address)

def Route.holdings : Route → List Resource
  | .firmware image => [.image image]
  | .validated => []

def Pending.holdings (pending : Pending) : List Resource :=
  pending.route.holdings ++ [pending.file.resource]

section Ways

variable {limit : MemoryLimit} {settings : Settings} {history : History platform} {start : List Resource}

theorem PageReading.unwinds {file : OpenFile} {size : Nat} {error : BootError}
    (reading : PageReading file size history (.error error)) : Unwinds [] history := by
  cases reading with
  | ungranted => exact (Acquires.idle rfl .nil).unwinds rfl
  | @atZero grant freed =>
      exact ⟨[⟨.allocatePages .code (pagesFor size), .ok grant⟩], _, _, rfl, .acquire rfl .nil, rfl⟩
  | @unread grant bytes error freed =>
      exact ⟨[⟨.allocatePages .code (pagesFor size), .ok grant⟩,
        ⟨.readFile file size, ⟨bytes, some error⟩⟩], _, _, rfl, .acquire rfl (.idle rfl .nil), rfl⟩

/-- A file that was read is closed behind the pages, although it was opened before them. -/
theorem PageReading.closed {file : OpenFile} {size : Nat} {pages : PageRange}
    (reading : PageReading file size history (.ok pages)) :
    Acquires [.file file] (history ++ [⟨.closeFile file, ()⟩]) [pages.resource] := by
  cases reading with
  | @filled grant bytes =>
      have closing : resources.Moves [.memory (.pages grant.address (pagesFor size)), .file file]
          [⟨.closeFile file, ()⟩] [.memory (.pages grant.address (pagesFor size))] := by
        refine .release rfl ?_ (List.mem_cons_of_mem _ List.mem_cons_self)
        rw [List.erase_cons_tail (by simp), List.erase_cons_head]
        exact .nil
      exact ⟨.keeps rfl (.closes .nil), .acquire rfl (.idle rfl closing)⟩

theorem Fetching.unwinds {name : List Char} {error : BootError}
    (fetching : Fetching limit name history (.error error)) : Unwinds [] history := by
  cases fetching with
  | unopened => exact (Acquires.idle rfl .nil).unwinds rfl
  | @unplaced file root =>
      exact ⟨[⟨.openFile name, .ok file⟩, ⟨.rootDevice, root⟩], _, _, rfl,
        .acquire rfl (.idle rfl .nil), rfl⟩
  | @unfilled file root reading error failed =>
      have closing : resources.Returns [.file file] [⟨.closeFile file, ()⟩] := rfl
      have opening : Acquires [] [⟨.openFile name, .ok file⟩, ⟨.rootDevice, root⟩] [.file file] :=
        .acquire rfl (.idle rfl .nil)
      exact (failed.unwinds.within closing).after opening

theorem Fetching.acquires {name : List Char} {device : Handle} {path : Bytes} {pages : PageRange}
    (fetching : Fetching limit name history (.ok (device, path, pages))) :
    Acquires [] history [pages.resource] := by
  cases fetching with
  | fetched _ filled => exact .acquire rfl (.idle rfl filled.closed)

theorem Gate.acquires {path : Bytes} {image : Buffer} {route : Route}
    (gate : Gate settings path image history (.ok route)) :
    Acquires start history (route.holdings ++ start) := by
  cases gate with
  | forced => exact .nil
  | verified => exact .idle rfl (.idle rfl (.idle rfl .nil))
  | loaded => exact .idle rfl (.acquire rfl .nil)

theorem Gate.stops {path : Bytes} {image : Buffer} {error : BootError}
    (gate : Gate settings path image history (.error error)) : Acquires start history start := by
  cases gate with
  | rootless => exact .idle rfl (.idle rfl .nil)
  | rejected => exact .idle rfl (.idle rfl (.idle rfl .nil))
  | refused => exact .idle rfl (.idle rfl .nil)

theorem Pending.Released.returns {pending : Pending} (released : pending.Released history) :
    resources.Returns pending.holdings history := by
  cases released with
  | firmware route =>
      rw [holdings, route]
      rfl
  | validated route =>
      rw [holdings, route]
      rfl

theorem Preparation.unwinds {arguments : List (List Char)} {error : BootError}
    (preparation : Preparation limit settings arguments history (.error error)) : Unwinds [] history := by
  cases preparation with
  | nameless => exact Acquires.nil.unwinds rfl
  | unencoded => exact Acquires.nil.unwinds rfl
  | unread failed => exact (fetch_follows failed).unwinds
  | unselected fetched => exact (fetch_follows fetched).acquires.unwinds rfl
  | stopped fetched _ gate =>
      rw [← List.append_assoc]
      exact ((fetch_follows fetched).acquires.append gate.stops).unwinds rfl
  | unconfigured fetched _ _ gate released =>
      rw [← List.append_assoc, ← List.singleton_append, ← List.append_assoc]
      refine (((fetch_follows fetched).acquires.append gate.acquires).append ?_).unwinds released.returns
      exact .idle rfl .nil

theorem Preparation.acquires {arguments : List (List Char)} {pending : Pending}
    (preparation : Preparation limit settings arguments history (.ok pending)) :
    Acquires [] history pending.holdings := by
  cases preparation with
  | firmware fetched _ _ gate =>
      refine (fetch_follows fetched).acquires.append (gate.acquires.append ?_)
      exact .idle rfl .nil
  | validated fetched _ _ gate => exact (fetch_follows fetched).acquires.append gate.acquires

theorem Image.Loading.unwinds {layout : Image.Layout} {error : BootError}
    (loading : Image.Loading layout history (.error error)) : Unwinds [] history := by
  cases loading with
  | unrequested => exact Acquires.nil.unwinds rfl
  | ungranted => exact (Acquires.idle rfl .nil).unwinds rfl
  | @failed size grant freed _ requested =>
      exact ⟨[⟨.allocatePool .data size, .ok grant⟩], _, _, rfl, .acquire rfl .nil, rfl⟩

theorem Image.Loading.acquires {layout : Image.Layout} {loaded : Image.Loaded}
    (loading : Image.Loading layout history (.ok loaded)) :
    Acquires [] history [loaded.window.buffer.resource] := by
  cases loading with
  | loaded requested chosen =>
      rw [(Window.choose_ok requested chosen).1]
      exact .acquire rfl .nil

def Image.loadAndDrop (file : Buffer) (layout : Layout) : Try Unit := do
  let loaded ← load file layout
  (loaded.release : Act Unit)

theorem Image.loadAndDrop_unwinds {file : Buffer} {layout : Layout} {verdict : Except BootError Unit}
    (follows : (loadAndDrop file layout).Follows history verdict) : Unwinds [] history := by
  obtain ⟨error, failed, rfl⟩ | ⟨loaded, first, second, loading, dropping, rfl⟩ :=
    Attempt.follows_bind.mp follows
  · exact (load_follows failed).unwinds
  · obtain ⟨⟨⟩, released, rfl⟩ := Attempt.follows_lift.mp dropping
    obtain ⟨freed, rfl⟩ := PoolBuffer.release_follows released
    exact (load_follows loading).acquires.unwinds rfl

private theorem Pending.layout_acquires {image : Buffer} {verdict : Except BootError Image.Layout}
    (follows : (layout image).Follows history verdict) : Acquires start history start := by
  obtain rfl | ⟨source, -, rfl, -⟩ := layout_follows follows
  · exact .idle rfl (.idle rfl .nil)
  · exact .idle rfl .nil

theorem Pending.ValidatedStart.unwinds {pending : Pending} {verdict : Except BootError Unit}
    (started : pending.ValidatedStart history verdict) : Unwinds [] history := by
  cases started with
  | unparsed failed =>
      rw [← List.append_nil history]
      exact (layout_acquires failed).unwinds rfl
  | unloaded parsed failed => exact (Image.load_follows failed).unwinds.after (layout_acquires parsed)
  | @unnamed _ _ _ loaded freed _ parsed loading =>
      have loads := (Image.load_follows loading).acquires
      have freeing : resources.Returns [loaded.window.buffer.resource]
          [⟨.freePool loaded.window.buffer.address, freed⟩] := rfl
      exact (loads.unwinds freeing).after (layout_acquires parsed)
  | @recordless _ _ _ loaded freed parsed loading =>
      have loads := (Image.load_follows loading).acquires
      have entering : Unwinds [loaded.window.buffer.resource]
          [⟨.snapshot, none⟩, ⟨.freePool loaded.window.buffer.address, freed⟩] :=
        ⟨[_], [_], _, rfl, .idle rfl .nil, rfl⟩
      exact (entering.after loads).after (layout_acquires parsed)
  | @entered _ _ _ loaded filePath saved status freed parsed loading =>
      have loads := (Image.load_follows loading).acquires
      have entering : Unwinds [loaded.window.buffer.resource]
          [⟨.snapshot, some saved⟩, ⟨.install (pending.record loaded filePath), ()⟩,
            ⟨.callEntry loaded.entry loaded.bytes, status⟩, ⟨.restore saved, ()⟩,
            ⟨.freePool loaded.window.buffer.address, freed⟩] :=
        ⟨[_, _, _], [_, _], _, rfl, .idle rfl (.acquire rfl (.idle rfl .nil)), rfl⟩
      exact (entering.after loads).after (layout_acquires parsed)

theorem Pending.Start.unwinds {pending : Pending} {verdict : Except BootError Unit}
    (started : pending.Start history verdict) : Unwinds pending.holdings history := by
  cases started with
  | @firmware image ending unloaded freed route =>
      rw [holdings, route]
      exact ⟨[⟨.startImage image, ending⟩], _, _, rfl, .idle rfl .nil, rfl⟩
  | validated route started =>
      rw [holdings, route]
      exact started.unwinds.within rfl

/-- However a session goes, it ends by giving back what it then holds, the last acquired first. -/
theorem Session.unwinds {arguments : List (List Char)} {finish : Finish} {outcome : Outcome}
    (session : Session limit settings arguments finish history outcome) : Unwinds [] history := by
  cases session with
  | refused prepared => exact prepared.unwinds
  | booted prepared started => exact started.unwinds.after prepared.acquires
  | dropped prepared released => exact prepared.acquires.unwinds released.returns

end Ways

/-- Everything that a history acquires it gives back, memory and whatever else, and at its end in reverse order. -/
structure GivesBack (history : History platform) : Prop where
  resources : resources.Balances history
  allocations : allocations.Balances history
  unwinds : Unwinds [] history

private theorem Resource.allocation?_memory (allocation : Allocation) :
    (memory allocation).allocation? = some allocation := rfl

private theorem Resource.allocation?_apart : ∀ left right shown, allocation? left = some shown →
    allocation? right = some shown → left = right := by
  intro left right shown first second
  cases left <;> cases first
  cases right <;> cases second
  rfl

section Books

variable {history : History platform}

theorem Unwinds.moves_allocations (unwinds : Unwinds [] history) : allocations.Moves [] history [] :=
  unwinds.moves.restrict Resource.allocation?_apart Resource.allocation?_memory

theorem Unwinds.givesBack (unwinds : Unwinds [] history) : GivesBack history where
  resources := unwinds.moves.balances
  allocations := unwinds.moves_allocations.balances
  unwinds := unwinds

end Books

end EfiHandoff
