import EfiHandoff.Proofs.SystemTable.Lookups
import EfiHandoff.Simulation.Medium

/-!
# Reading in pieces

The firmware delivers a file in pieces of its own choice. Whatever the pieces are, the bytes that come together are
those of one read of the whole length, and the reading ends.
-/

set_option autoImplicit false

namespace EfiHandoff

open SystemTable Simulation

namespace Volume

/-- The ways the rest of a file can be read, `done` being there already. -/
inductive Reading (file : UInt64) (length : Nat) : Buffer → History systemTable → Delivery → Prop where
  | full {done : Buffer} (enough : length ≤ done.size) : Reading file length done [] ⟨done, none⟩
  | failed {done given : Buffer} {status : Status} (short : done.size < length) (failure : status ≠ .success) :
      Reading file length done [⟨.readFile file (length - done.size), (status, given)⟩]
        ⟨done, some (.device status)⟩
  | ended {done : Buffer} (short : done.size < length) :
      Reading file length done [⟨.readFile file (length - done.size), (Status.success, #[])⟩] ⟨done, some .short⟩
  | more {done given : Buffer} {later : History systemTable} {delivery : Delivery} (short : done.size < length)
      (brought : given ≠ #[])
      (rest : Reading file length (done ++ given.extract 0 (length - done.size)) later delivery) :
      Reading file length done (⟨.readFile file (length - done.size), (Status.success, given)⟩ :: later) delivery

section Ways

variable {file : UInt64} {length : Nat} {done : Buffer} {history : History systemTable} {delivery : Delivery}

/-- Of what is delivered something is kept, if it is anything at all. -/
theorem kept_pos_iff {given : Buffer} {wanted : Nat} (positive : 0 < wanted) :
    0 < (given.extract 0 wanted).size ↔ given ≠ #[] := by
  rw [Array.size_extract, ← Array.size_pos_iff]
  omega

theorem readRest_follows :
    (readRest file length done).Follows history delivery ↔ Reading file length done history delivery := by
  induction done using readRest.induct length generalizing history with
  | case1 done short ih =>
      have wanted : 0 < length - done.size := Nat.sub_pos_of_lt short
      rw [readRest, dif_pos short]
      constructor
      · intro follows
        obtain ⟨⟨status, given⟩, later, rfl, continued⟩ := Program.follows_ask.mp follows
        clear follows
        dsimp only at continued
        by_cases success : status = .success
        · subst success
          rw [failure?_success] at continued
          by_cases brought : 0 < (given.extract 0 (length - done.size)).size
          · rw [dif_pos brought] at continued
            exact .more short ((kept_pos_iff wanted).mp brought) ((ih given brought).mp continued)
          · rw [dif_neg brought] at continued
            obtain ⟨rfl, rfl⟩ := Program.follows_pure.mp continued
            obtain rfl : given = #[] := Classical.not_not.mp (mt (kept_pos_iff wanted).mpr brought)
            exact .ended short
        · rw [failure?_of_ne success] at continued
          obtain ⟨rfl, rfl⟩ := Program.follows_pure.mp continued
          exact .failed short success
      · intro reading
        cases reading with
        | full enough => exact absurd short (Nat.not_lt.mpr enough)
        | @failed _ given status _ failure =>
            refine Program.follows_ask.mpr ⟨(status, given), [], rfl, ?_⟩
            dsimp only
            rw [failure?_of_ne failure]
            exact ⟨rfl, rfl⟩
        | ended =>
            refine Program.follows_ask.mpr ⟨(.success, #[]), [], rfl, ?_⟩
            dsimp only
            rw [failure?_success, dif_neg fun positive => (kept_pos_iff wanted).mp positive rfl]
            exact ⟨rfl, rfl⟩
        | @more _ given later _ _ brought rest =>
            have positive := (kept_pos_iff wanted).mpr brought
            refine Program.follows_ask.mpr ⟨(.success, given), later, rfl, ?_⟩
            dsimp only
            rw [failure?_success, dif_pos positive]
            exact (ih given positive).mpr rest
  | case2 done full =>
      rw [readRest, dif_neg full]
      constructor
      · intro follows
        obtain ⟨rfl, rfl⟩ := Program.follows_pure.mp follows
        exact .full (Nat.le_of_not_lt full)
      · intro reading
        cases reading with
        | full => exact ⟨rfl, rfl⟩
        | failed short | ended short | more short => exact absurd short full

/-- Every call but the last brings a byte, and there is no call without a byte that is missing. -/
theorem Reading.length_le (reading : Reading file length done history delivery) :
    history.length ≤ length - done.size := by
  induction reading with
  | full => exact Nat.zero_le _
  | failed short | ended short => exact Nat.sub_pos_of_lt short
  | @more done given _ _ short brought _ ih =>
      have positive := (kept_pos_iff (Nat.sub_pos_of_lt short)).mpr brought
      rw [Array.size_append] at ih
      rw [List.length_cons]
      omega

theorem Reading.failing (reading : Reading file length done history delivery) {asked : UInt64} {wanted : Nat}
    {status : Status} {given : Buffer} (member : ⟨.readFile asked wanted, (status, given)⟩ ∈ history)
    (failure : status ≠ .success) : delivery.complete = .error (.device status) := by
  induction reading with
  | full => cases member
  | failed =>
      cases List.mem_singleton.mp member
      rfl
  | ended =>
      cases List.mem_singleton.mp member
      exact absurd rfl failure
  | more _ _ _ ih =>
      rcases List.mem_cons.mp member with same | later
      · cases same
        exact absurd rfl failure
      · exact ih later

end Ways

end Volume

/-- Successful reads of a file, from one position in its contents to another. Each brings bytes that stand at the
position, no more than it was asked for, and none only at the end. -/
inductive Serves (contents : Buffer) (file : UInt64) : Nat → History systemTable → Nat → Prop where
  | nil {position : Nat} : Serves contents file position [] position
  | cons {position finish wanted : Nat} {given : Buffer} {later : History systemTable}
      (stands : given = contents.slice position given.size) (asked : given.size ≤ wanted)
      (nothing : given.size = 0 → wanted = 0 ∨ contents.size ≤ position)
      (rest : Serves contents file (position + given.size) later finish) :
      Serves contents file position (⟨.readFile file wanted, (Status.success, given)⟩ :: later) finish

def wholeRead (contents : Buffer) (position length : Nat) : Except FileError Buffer :=
  if length ≤ contents.size - position then .ok (contents.slice position length) else .error .short

section Whole

variable {contents done : Buffer} {file : UInt64} {start position finish length : Nat}
  {history : History systemTable} {delivery : Delivery}

private theorem Buffer.slice_append_slice (first second : Nat) :
    contents.slice start first ++ contents.slice (start + first) second = contents.slice start (first + second) := by
  unfold slice
  rw [Array.extract_append_extract]
  congr 1 <;> omega

private theorem Buffer.size_le_of_slice {part : Buffer} (same : part = contents.slice start part.size) :
    part.size ≤ contents.size - start := by
  have size := congrArg Array.size same
  rw [slice, Array.size_extract] at size
  omega

/-- Along the reading the bytes that are there are those from the start to the present position. -/
theorem Volume.Reading.whole (reading : Reading file length done history delivery)
    (served : Serves contents file position history finish) (placed : position = start + done.size)
    (read : done = contents.slice start done.size) (bounded : done.size ≤ length) :
    delivery.complete = wholeRead contents start length ∧
      (length ≤ contents.size - start → finish = start + length) := by
  induction reading generalizing position with
  | full enough =>
      cases served
      have filled := Nat.le_antisymm bounded enough
      have room := Buffer.size_le_of_slice read
      rw [filled] at placed read room
      rw [wholeRead, if_pos room, ← read]
      exact ⟨rfl, fun _ => placed⟩
  | failed _ failure =>
      cases served
      exact absurd rfl failure
  | ended short =>
      obtain _ | ⟨-, -, nothing, -⟩ := served
      have exhausted : contents.size ≤ position := (nothing rfl).resolve_left (Nat.sub_ne_zero_of_lt short)
      have lacking : ¬ length ≤ contents.size - start := by omega
      rw [wholeRead, if_neg lacking]
      exact ⟨rfl, fun enough => absurd enough lacking⟩
  | @more done given _ _ short _ _ ih =>
      obtain _ | ⟨stands, asked, -, rest⟩ := served
      have kept : given.extract 0 (length - done.size) = given := Array.extract_eq_self_of_le asked
      rw [kept, Array.size_append] at ih
      refine ih rest (by omega) ?_ (by omega)
      rw [← Buffer.slice_append_slice, ← read, ← placed, ← stands]

/-- The files that come to be open in memory. -/
inductive Simulation.OpenFiles.Reached : OpenFiles → Prop where
  | none {next : Handle} : Reached ⟨next, []⟩
  | insert {files : OpenFiles} {contents : Buffer} (reached : Reached files) : Reached (files.insert contents).2
  | erase {files : OpenFiles} {handle : Handle} (reached : Reached files) : Reached (files.erase handle)
  | read {files : OpenFiles} {handle : Handle} {length : Nat} (reached : Reached files) :
      Reached (files.read handle length).2

/-- No file in memory was read beyond its end. -/
theorem Simulation.OpenFiles.Reached.within {files : OpenFiles} (reached : files.Reached) :
    ∀ entry ∈ files.entries, entry.2.2 ≤ entry.2.1.size := by
  induction reached with
  | none => exact List.forall_mem_nil _
  | insert _ ih => exact List.forall_mem_cons.mpr ⟨Nat.zero_le _, ih⟩
  | erase _ ih => exact fun entry member => ih entry ((List.mem_filter.mp member).1)
  | @read files handle length _ ih =>
      unfold OpenFiles.read
      split
      · exact ih
      · split
        · rename_i room
          exact List.forall_mem_cons.mpr ⟨room, fun entry member => ih entry ((List.mem_filter.mp member).1)⟩
        · exact ih

/-- A file in memory is read at once. -/
theorem Simulation.OpenFiles.Reached.read_eq {files : OpenFiles} {handle : Handle} (reached : files.Reached)
    (found : files.entries.lookup handle = some (contents, position)) :
    (files.read handle length).1.complete = wholeRead contents position length := by
  obtain ⟨early, late, same, -⟩ := List.lookup_eq_some_iff.mp found
  have within : position ≤ contents.size := reached.within (handle, contents, position) (by simp [same])
  unfold OpenFiles.read wholeRead
  rw [found]
  dsimp only
  by_cases room : position + length ≤ contents.size
  · rw [if_pos room, if_pos (Nat.le_sub_of_add_le' room)]
    rfl
  · rw [if_neg room, if_neg (by omega)]
    rfl

end Whole

/-- However the firmware cuts a file into pieces, reading exactly some bytes of it ends after at most as many calls, and
ends as reading them at once from a file in memory does: with the bytes if so many are left, and short otherwise. A
piece that fails is the end, and its status is the error. -/
theorem readExactly_agrees_with_read (file : UInt64) (length : Nat) :
    (∀ (σ : Type) (machine : Machine systemTable σ) state, ∃ history delivery,
      (Volume.readExactly file length).Follows history delivery ∧ machine.Gives state history) ∧
    ∀ history delivery, (Volume.readExactly file length).Follows history delivery →
      history.length ≤ length ∧
      (∀ contents position finish, Serves contents file position history finish →
        delivery.complete = wholeRead contents position length ∧
        (length ≤ contents.size - position → finish = position + length) ∧
        ∀ (files : OpenFiles) handle, files.Reached → files.entries.lookup handle = some (contents, position) →
          delivery.complete = (files.read handle length).1.complete) ∧
      ∀ asked wanted status given, ⟨.readFile asked wanted, (status, given)⟩ ∈ history → status ≠ .success →
        delivery.complete = .error (.device status) := by
  refine ⟨?_, ?_⟩
  · intro σ machine state
    exact ⟨_, _, Program.follows_history machine _ state, Machine.gives_history machine _ state⟩
  intro history delivery follows
  have reading := Volume.readRest_follows.mp follows
  refine ⟨reading.length_le, ?_, fun _ _ _ _ => reading.failing⟩
  intro contents position finish served
  have nothing : (#[] : Buffer) = contents.slice position 0 := by
    unfold Buffer.slice
    rw [Nat.add_zero, Array.extract_eq_empty_of_le (Nat.min_le_left _ _)]
  obtain ⟨ended, finished⟩ := reading.whole served (Nat.add_zero position).symm nothing (Nat.zero_le length)
  refine ⟨ended, finished, ?_⟩
  intro files handle reached found
  rw [reached.read_eq found, ended]

section Pieces

def pieced : Buffer := #[1, 2, 3, 4, 5, 6, 7]

def piecedFiles : OpenFiles := (((⟨9, []⟩ : OpenFiles).insert pieced).2.read 9 1).2

def piecedReads : History systemTable :=
  [⟨.readFile 9 5, (Status.success, #[2, 3])⟩, ⟨.readFile 9 3, (Status.success, #[4])⟩,
    ⟨.readFile 9 2, (Status.success, #[5, 6])⟩]

def shortReads : History systemTable :=
  [⟨.readFile 9 5, (Status.success, #[4, 5, 6])⟩, ⟨.readFile 9 2, (Status.success, #[7])⟩,
    ⟨.readFile 9 1, (Status.success, #[])⟩]

/-- The second piece fails with a warning, although it brings bytes. -/
def brokenReads : History systemTable :=
  [⟨.readFile 9 5, (Status.success, #[4, 5, 6])⟩, ⟨.readFile 9 2, (⟨4⟩, #[7])⟩]

end Pieces

theorem readExactly_agrees_with_read_pieced :
    (∃ delivery, (Volume.readExactly 9 5).Follows piecedReads delivery ∧
      delivery.complete = .ok #[2, 3, 4, 5, 6] ∧
      delivery.complete = (piecedFiles.read 9 5).1.complete) ∧
    (∃ delivery, (Volume.readExactly 9 5).Follows shortReads delivery ∧ delivery.complete = .error .short) ∧
    ∃ delivery, (Volume.readExactly 9 5).Follows brokenReads delivery ∧
      delivery.complete = .error (.device ⟨4⟩) := by
  obtain ⟨-, agrees⟩ := readExactly_agrees_with_read 9 5
  refine ⟨?_, ?_, ?_⟩
  · have follows : (Volume.readExactly 9 5).Follows piecedReads ⟨#[2, 3, 4, 5, 6], none⟩ :=
      Volume.readRest_follows.mpr
        (.more (by decide) (by decide) (.more (by decide) (by decide) (.more (by decide) (by decide)
          (.full (by decide)))))
    have served : Serves pieced 9 1 piecedReads 6 :=
      .cons (by decide) (by decide) nofun (.cons (by decide) (by decide) nofun
        (.cons (by decide) (by decide) nofun .nil))
    obtain ⟨-, serving, -⟩ := agrees _ _ follows
    obtain ⟨read, -, memory⟩ := serving _ _ _ served
    exact ⟨_, follows, read, memory piecedFiles 9 (.read (.insert .none)) (by decide)⟩
  · have follows : (Volume.readExactly 9 5).Follows shortReads ⟨#[4, 5, 6, 7], some .short⟩ :=
      Volume.readRest_follows.mpr
        (.more (by decide) (by decide) (.more (by decide) (by decide) (.ended (by decide))))
    have served : Serves pieced 9 3 shortReads 7 :=
      .cons (by decide) (by decide) nofun (.cons (by decide) (by decide) nofun
        (.cons (by decide) (by decide) (fun _ => .inr (by decide)) .nil))
    obtain ⟨-, serving, -⟩ := agrees _ _ follows
    exact ⟨_, follows, (serving _ _ _ served).1⟩
  · have follows : (Volume.readExactly 9 5).Follows brokenReads ⟨#[4, 5, 6], some (.device ⟨4⟩)⟩ :=
      Volume.readRest_follows.mpr (.more (by decide) (by decide) (.failed (by decide) (by decide)))
    obtain ⟨-, -, failing⟩ := agrees _ _ follows
    exact ⟨_, follows, failing 9 2 ⟨4⟩ #[7] (by simp [brokenReads]) (by decide)⟩

end EfiHandoff
