import EfiHandoff.Proofs.Program.Custody
import EfiHandoff.Proofs.SystemTable.PiecewiseReading

/-!
# Opening files

The ways a file of the boot volume is opened, each with its calls. Any of them can fail; whichever does, the directory
is closed, the file is closed if it was opened, and the error is the one that the status amounts to.
-/

set_option autoImplicit false

namespace EfiHandoff

open SystemTable

/-- The open files of a system table, by their addresses. A directory is a file too. -/
def SystemTable.files : Custody systemTable UInt64 where
  account := {
    effect
      | ⟨.openVolume _, root⟩ => if root.status = .success then .acquire root.address else .idle
      | ⟨.openFile _ _ _ _, file⟩ => if file.status = .success then .acquire file.address else .idle
      | ⟨.closeFile file, _⟩ => .release file
      | _ => .idle }
  worksOn
    | .openFile directory _ _ _ => some directory
    | .closeFile file | .setPosition file _ | .getPosition file | .readFile file _ => some file
    | _ => none

namespace Volume

inductive Measuring (file : UInt64) : History systemTable → Except FileError OpenFile → Prop where
  | unsought {status : Status} (failure : status ≠ .success) :
      Measuring file [⟨.setPosition file endPosition, status⟩, ⟨.closeFile file, ()⟩] (.error (.device status))
  | untold {status : Status} {size : UInt64} (failure : status ≠ .success) :
      Measuring file [⟨.setPosition file endPosition, Status.success⟩, ⟨.getPosition file, (status, size)⟩,
        ⟨.closeFile file, ()⟩] (.error (.device status))
  | unrewound {status : Status} {size : UInt64} (failure : status ≠ .success) :
      Measuring file [⟨.setPosition file endPosition, Status.success⟩, ⟨.getPosition file, (Status.success, size)⟩,
        ⟨.setPosition file 0, status⟩, ⟨.closeFile file, ()⟩] (.error (.device status))
  | measured {size : UInt64} :
      Measuring file [⟨.setPosition file endPosition, Status.success⟩, ⟨.getPosition file, (Status.success, size)⟩,
        ⟨.setPosition file 0, Status.success⟩] (.ok ⟨file, size⟩)

inductive Opening (volume : Volume) (path : List Char) :
    History systemTable → Except FileError OpenFile → Prop where
  | unmounted {root : Found} (failure : root.status ≠ .success) :
      Opening volume path [⟨.openVolume volume.fileSystem, root⟩] (.error (.device root.status))
  | missing {root file : Found} (mounted : root.status = .success) (missing : file.status = .notFound) :
      Opening volume path [⟨.openVolume volume.fileSystem, root⟩,
        ⟨.openFile root.address (fileName path) readMode 0, file⟩, ⟨.closeFile root.address, ()⟩]
        (.error .notFound)
  | unopened {root file : Found} (mounted : root.status = .success) (failure : file.status ≠ .success)
      (other : file.status ≠ .notFound) :
      Opening volume path [⟨.openVolume volume.fileSystem, root⟩,
        ⟨.openFile root.address (fileName path) readMode 0, file⟩, ⟨.closeFile root.address, ()⟩]
        (.error (.device file.status))
  | opened {root file : Found} {later : History systemTable} {result : Except FileError OpenFile}
      (mounted : root.status = .success) (found : file.status = .success)
      (measuring : Measuring file.address later result) :
      Opening volume path (⟨.openVolume volume.fileSystem, root⟩ ::
        ⟨.openFile root.address (fileName path) readMode 0, file⟩ :: ⟨.closeFile root.address, ()⟩ :: later) result

section Ways

variable {volume : Volume} {path : List Char} {file : UInt64} {history : History systemTable}
  {result : Except FileError OpenFile}

private theorem follows_require {α : Type} {status : Status} {next : Unit → ExceptT FileError (Program systemTable) α}
    {verdict : Except FileError α} :
    (ExceptT.run (measure.require status >>= next)).Follows history verdict ↔
      status = .success ∧ (next ()).run.Follows history verdict ∨
        status ≠ .success ∧ history = [] ∧ verdict = .error (.device status) := by
  by_cases success : status = .success
  · subst success
    simp only [true_and, ne_eq, not_true_eq_false, false_and, or_false]
    rfl
  · have failing : measure.require status = throw (.device status) := by
      unfold measure.require
      rw [failure?_of_ne success]
    rw [failing]
    simp only [success, ne_eq, not_false_eq_true, false_and, true_and, false_or]
    rfl

theorem measure_follows (follows : (measure file).Follows history result) : Measuring file history result := by
  obtain ⟨verdict, first, last, measuring, ended, rfl⟩ := Program.follows_bind.mp follows
  clear follows
  have closes {error : FileError} (failed : verdict = .error error) :
      last = [⟨.closeFile file, ()⟩] ∧ result = .error error := by
    subst failed
    obtain ⟨⟨⟩, rest, rfl, closed⟩ := Program.follows_ask.mp ended
    obtain ⟨rfl, rfl⟩ := Program.follows_pure.mp closed
    exact ⟨rfl, rfl⟩
  obtain ⟨sought, later, rfl, seeking⟩ := Program.follows_ask.mp measuring
  clear measuring
  obtain ⟨rfl, telling⟩ | ⟨failure, rfl, failed⟩ := follows_require.mp seeking
  swap
  · obtain ⟨rfl, rfl⟩ := closes failed
    exact .unsought failure
  clear seeking
  obtain ⟨⟨told, size⟩, later, rfl, sized⟩ := Program.follows_ask.mp telling
  clear telling
  obtain ⟨rfl, rewinding⟩ | ⟨failure, rfl, failed⟩ := follows_require.mp sized
  swap
  · obtain ⟨rfl, rfl⟩ := closes failed
    exact .untold failure
  clear sized
  obtain ⟨rewound, later, rfl, placed⟩ := Program.follows_ask.mp rewinding
  clear rewinding
  obtain ⟨rfl, measured⟩ | ⟨failure, rfl, failed⟩ := follows_require.mp placed
  swap
  · obtain ⟨rfl, rfl⟩ := closes failed
    exact .unrewound failure
  obtain ⟨rfl, rfl⟩ := Program.follows_pure.mp measured
  obtain ⟨rfl, rfl⟩ := Program.follows_pure.mp ended
  exact .measured

theorem openPath_follows (follows : (volume.openPath path).Follows history result) :
    volume.Opening path history result := by
  obtain ⟨root, later, rfl, opening⟩ := Program.follows_ask.mp follows
  clear follows
  by_cases mounted : root.status = .success
  · rw [mounted, failure?_success] at opening
    obtain ⟨file, later, rfl, closing⟩ := Program.follows_ask.mp opening
    clear opening
    obtain ⟨⟨⟩, later, rfl, ended⟩ := Program.follows_ask.mp closing
    clear closing
    by_cases missing : file.status = .notFound
    · rw [if_pos missing] at ended
      obtain ⟨rfl, rfl⟩ := Program.follows_pure.mp ended
      exact .missing mounted missing
    rw [if_neg missing] at ended
    by_cases found : file.status = .success
    · rw [found, failure?_success] at ended
      exact .opened mounted found (measure_follows ended)
    · rw [failure?_of_ne found] at ended
      obtain ⟨rfl, rfl⟩ := Program.follows_pure.mp ended
      exact .unopened mounted found missing
  · rw [failure?_of_ne mounted] at opening
    obtain ⟨rfl, rfl⟩ := Program.follows_pure.mp opening
    exact .unmounted mounted

end Ways

/-- The failures of the calls that open a file. That there is no such file is known only from asking for it. -/
inductive Fails : Exchange systemTable → FileError → Prop where
  | mount {fileSystem : UInt64} {root : Found} (failure : root.status ≠ .success) :
      Fails ⟨.openVolume fileSystem, root⟩ (.device root.status)
  | missing {directory mode attributes : UInt64} {name : List UInt16} {file : Found}
      (missing : file.status = .notFound) : Fails ⟨.openFile directory name mode attributes, file⟩ .notFound
  | open_ {directory mode attributes : UInt64} {name : List UInt16} {file : Found}
      (failure : file.status ≠ .success) (other : file.status ≠ .notFound) :
      Fails ⟨.openFile directory name mode attributes, file⟩ (.device file.status)
  | seek {file position : UInt64} {status : Status} (failure : status ≠ .success) :
      Fails ⟨.setPosition file position, status⟩ (.device status)
  | tell {file size : UInt64} {status : Status} (failure : status ≠ .success) :
      Fails ⟨.getPosition file, (status, size)⟩ (.device status)

def openedWith (held : List UInt64) : Except FileError OpenFile → List UInt64
  | .ok file => file.handle :: held
  | .error _ => held

/-- What opening a file of a volume comes to. -/
structure Opens (volume : Volume) (path : List Char) (history : History systemTable)
    (result : Except FileError OpenFile) : Prop where
  /-- The root directory is opened first, and closed as soon as it was asked for the file, whatever it answered. -/
  root : ∃ root later, history = ⟨.openVolume volume.fileSystem, root⟩ :: later ∧ (root.status = .success →
    ∃ file rest, later = ⟨.openFile root.address (fileName path) readMode 0, file⟩ ::
      ⟨.closeFile root.address, ()⟩ :: rest)
  kept : ∀ held, SystemTable.files.Kept held history (openedWith held result)
  failed : ∀ exchange ∈ history, ∀ error, Fails exchange error → result = .error error
  /-- The size is the position at the end of the file, and the file stands at its start. -/
  opened : (∀ exchange ∈ history, ∀ error, ¬ Fails exchange error) → ∃ file earlier, result = .ok file ∧
    history = earlier ++ [⟨.setPosition file.handle endPosition, Status.success⟩,
      ⟨.getPosition file.handle, (Status.success, file.size)⟩, ⟨.setPosition file.handle 0, Status.success⟩]

section Opens

variable {volume : Volume} {path : List Char} {file : UInt64} {history : History systemTable}
  {result : Except FileError OpenFile} {held : List UInt64}

theorem Measuring.kept (measuring : Measuring file history result) :
    SystemTable.files.Kept (file :: held) history (openedWith held result) := by
  have member : file ∈ file :: held := List.mem_cons_self
  cases measuring with
  | unsought => exact .on rfl member rfl (.releases rfl rfl .nil)
  | untold => exact .on rfl member rfl (.on rfl member rfl (.releases rfl rfl .nil))
  | unrewound => exact .on rfl member rfl (.on rfl member rfl (.on rfl member rfl (.releases rfl rfl .nil)))
  | measured => exact .on rfl member rfl (.on rfl member rfl (.on rfl member rfl .nil))

/-- The root directory is open while it is asked for the file, and closed behind it. -/
theorem kept_root {root found : Found} {later : History systemTable} {finish : List UInt64}
    (mounted : root.status = .success)
    (rest : SystemTable.files.Kept (if found.status = .success then found.address :: held else held) later finish) :
    SystemTable.files.Kept held (⟨.openVolume volume.fileSystem, root⟩ ::
      ⟨.openFile root.address (fileName path) readMode 0, found⟩ :: ⟨.closeFile root.address, ()⟩ :: later) finish := by
  refine .step nofun (congrArg (Effect.apply held) (if_pos mounted)) ?_
  by_cases success : found.status = .success
  · rw [if_pos success] at rest
    refine .on rfl List.mem_cons_self (congrArg (Effect.apply _) (if_pos success)) ?_
    have member : root.address ∈ found.address :: root.address :: held := List.mem_cons_of_mem _ List.mem_cons_self
    refine .on rfl member ?_ rest
    change Effect.apply _ (.release root.address) = _
    rw [Effect.apply, if_pos member]
    by_cases same : found.address = root.address
    · rw [same, List.erase_cons_head]
    · rw [List.erase_cons_tail (by simpa using same), List.erase_cons_head]
  · rw [if_neg success] at rest
    exact .on rfl List.mem_cons_self (congrArg (Effect.apply _) (if_neg success)) (.releases rfl rfl rest)

theorem Opening.kept (opening : volume.Opening path history result) :
    SystemTable.files.Kept held history (openedWith held result) := by
  cases opening with
  | unmounted failure => exact .step nofun (congrArg (Effect.apply held) (if_neg failure)) .nil
  | missing mounted missing =>
      refine kept_root mounted ?_
      rw [missing]
      exact .nil
  | unopened mounted failure =>
      refine kept_root mounted ?_
      rw [if_neg failure]
      exact .nil
  | opened mounted found measuring =>
      refine kept_root mounted ?_
      rw [if_pos found]
      exact measuring.kept

theorem Measuring.failed (measuring : Measuring file history result) {exchange : Exchange systemTable}
    (member : exchange ∈ history) {error : FileError} (fails : Fails exchange error) : result = .error error := by
  cases measuring <;> simp only [List.mem_cons, List.not_mem_nil, or_false] at member <;>
    rcases member with rfl | rfl | rfl | rfl <;> cases fails
  all_goals first | rfl | contradiction

theorem Opening.failed (opening : volume.Opening path history result) {exchange : Exchange systemTable}
    (member : exchange ∈ history) {error : FileError} (fails : Fails exchange error) : result = .error error := by
  cases opening with
  | unmounted =>
      cases List.mem_singleton.mp member
      cases fails
      rfl
  | missing mounted | unopened mounted =>
      simp only [List.mem_cons, List.not_mem_nil, or_false] at member
      rcases member with rfl | rfl | rfl <;> cases fails
      all_goals first | rfl | contradiction
  | opened mounted found measuring =>
      simp only [List.mem_cons] at member
      obtain rfl | rfl | rfl | later := member
      · obtain ⟨unmounted⟩ := fails
        exact absurd mounted unmounted
      · cases fails with
        | missing missing =>
            rw [missing] at found
            cases found
        | open_ failure => exact absurd found failure
      · cases fails
      · exact measuring.failed later fails

theorem Measuring.opened (measuring : Measuring file history result)
    (sound : ∀ exchange ∈ history, ∀ error, ¬ Fails exchange error) : ∃ opened, result = .ok opened ∧
      history = [⟨.setPosition opened.handle endPosition, Status.success⟩,
        ⟨.getPosition opened.handle, (Status.success, opened.size)⟩,
        ⟨.setPosition opened.handle 0, Status.success⟩] := by
  cases measuring with
  | unsought failure => exact (sound _ (.head _) _ (.seek failure)).elim
  | untold failure => exact (sound _ (.tail _ (.head _)) _ (.tell failure)).elim
  | unrewound failure => exact (sound _ (.tail _ (.tail _ (.head _))) _ (.seek failure)).elim
  | @measured size => exact ⟨⟨file, size⟩, rfl, rfl⟩

theorem Opening.opens (opening : volume.Opening path history result) : volume.Opens path history result where
  root := by
    cases opening with
    | unmounted failure => exact ⟨_, _, rfl, fun mounted => absurd mounted failure⟩
    | missing | unopened | opened => exact ⟨_, _, rfl, fun _ => ⟨_, _, rfl⟩⟩
  kept _ := opening.kept
  failed _ member _ fails := opening.failed member fails
  opened sound := by
    cases opening with
    | unmounted failure => exact (sound _ (.head _) _ (.mount failure)).elim
    | missing _ missing => exact (sound _ (.tail _ (.head _)) _ (.missing missing)).elim
    | unopened _ failure other => exact (sound _ (.tail _ (.head _)) _ (.open_ failure other)).elim
    | opened _ _ measuring =>
        obtain ⟨file, same, rfl⟩ := measuring.opened fun exchange member =>
          sound exchange (.tail _ (.tail _ (.tail _ member)))
        exact ⟨file, [_, _, _], same, rfl⟩

end Opens

end Volume

end EfiHandoff
