import EfiHandoff.Proofs.LoadOptions
import EfiHandoff.Proofs.SystemTable.Memory
import EfiHandoff.Proofs.Text.Decoding

/-!
# What is told of a started image

An image that the firmware started ends with a status and may leave a text in memory. The status decides how the handoff
went, and of the text as much is kept as there is room for.
-/

set_option autoImplicit false

namespace EfiHandoff

open SystemTable

def SystemTable.memoryUnits (memory : Nat → UInt8) (count : Nat) : List UInt16 :=
  (List.range count).map fun index =>
    UInt16.ofNat ((memory (2 * index)).toNat + 256 * (memory (2 * index + 1)).toNat)

private theorem Utf16.ofBytes_memory (memory : Nat → UInt8) (count : Nat) :
    Utf16.ofBytes ((List.range (2 * count)).map memory) = memoryUnits memory count := by
  induction count generalizing memory with
  | zero => rfl
  | succ count ih =>
      have behind := ih fun index => memory (index + 2)
      have bytes : (List.range (2 * (count + 1))).map memory =
          memory 0 :: memory 1 :: (List.range (2 * count)).map fun index => memory (index + 2) := by
        rw [Nat.mul_succ, List.range_succ_eq_map, List.range_succ_eq_map]
        simp [Function.comp_def]
      have units : memoryUnits memory (count + 1) =
          UInt16.ofNat ((memory 0).toNat + 256 * (memory 1).toNat) ::
            memoryUnits (fun index => memory (index + 2)) count := by
        unfold memoryUnits
        rw [List.range_succ_eq_map]
        simp [Function.comp_def, Nat.mul_succ]
      rw [bytes, units, ← behind, ← Utf16.unit_eq, Utf16.ofBytes]

/-- What is told of an image that was started: how the handoff went, and why it failed. -/
structure ExitReported (reply : StartReply) (contents : Nat → UInt8) (verdict : Except BootError Unit) : Prop where
  succeeds : verdict = .ok () ↔ reply.status = .success
  /-- A failed image is told with its status and the beginning of its text. There is no text where it left none, and
  else it stands in the whole units of its exit data, up to the first NUL. -/
  fails : reply.status ≠ .success → ∃ text message, verdict = .error (.programFailed reply.status message) ∧
    (reply.exitData = 0 → text = []) ∧
    (reply.exitData ≠ 0 →
      Utf16.Decodes ((memoryUnits contents (reply.exitSize / 2)).takeWhile (· ≠ 0)) text) ∧
    LoadOptions.LongestBeginning 128 text message
  /-- The text is the same if it is looked for behind the first NUL as well. -/
  uncut : reply.status ≠ .success → reply.exitData ≠ 0 →
    verdict = .error (.programFailed reply.status (LoadOptions.exitText (memoryUnits contents (reply.exitSize / 2))))

section Reports

variable {services : Services} {volume : Option Volume} {pending : Pending} {image : Handle} {ending : ImageExit}
  {history : History systemTable} {verdict : Except BootError Unit}

/-- The handoff to an image of the firmware begins with starting it, and the way it ended is the verdict. -/
theorem Services.start_follows (route : pending.route = .firmware image)
    (follows : (services.perform volume pending.start.run).Follows history verdict) :
    ∃ ending first later, Services.ImageStarted image first ending ∧ history = first ++ later ∧
      verdict = Pending.verdictOn ending.status (LoadOptions.exitText (ending.data.getD [])) := by
  obtain ⟨above, asked, answered⟩ := Program.follows_interpret follows
  cases Pending.start_follows asked with
  | validated other => cases route.symm.trans other
  | @firmware started ending unloaded freed same =>
      cases route.symm.trans same
      cases answered with
      | cons first rest => exact ⟨ending, _, _, Services.startImage_follows first, rfl, rfl⟩

private theorem ExitReported.of_dataless {reply : StartReply} {contents : Nat → UInt8} (null : reply.exitData = 0) :
    ExitReported reply contents (Pending.verdictOn reply.status (LoadOptions.exitText [])) where
  succeeds := Pending.verdictOn_eq_ok_iff
  fails failure :=
    ⟨[], _, Pending.verdictOn_of_failure failure, fun _ => rfl, absurd null, LoadOptions.fitting_longest _ _⟩
  uncut _ left := absurd null left

private theorem ExitReported.of_copied {reply : StartReply} {contents : Nat → UInt8} (left : reply.exitData ≠ 0) :
    ExitReported reply contents
      (Pending.verdictOn reply.status (LoadOptions.exitText (Services.unitsAt contents (reply.exitSize / 2)))) := by
  have copied : LoadOptions.exitText (Services.unitsAt contents (reply.exitSize / 2)) =
      LoadOptions.exitText (memoryUnits contents (reply.exitSize / 2)) := by
    rw [Services.unitsAt, LoadOptions.exitText_untilNul, Utf16.ofBytes_memory]
  rw [copied]
  exact {
    succeeds := Pending.verdictOn_eq_ok_iff
    fails failure := ⟨_, _, Pending.verdictOn_of_failure failure, fun null => absurd null left,
      fun _ => Utf16.decode_decodes _, LoadOptions.fitting_longest _ _⟩
    uncut failure _ := Pending.verdictOn_of_failure failure }

end Reports

/-- Handing over to an image of the firmware succeeds exactly when it ends with success. Else its status is told, and
as many characters as fit of the text it left in memory. Memory may be cut at the first NUL before it is decoded. -/
theorem start_reports_exit {σ : Type} (services : Services) (volume : Option Volume) (pending : Pending)
    (image : Handle) (route : pending.route = .firmware image) (machine : Machine systemTable σ) (state : σ) :
    let reply : StartReply := (machine.answer (.startImage image) state).1
    let contents : Nat → UInt8 :=
      (machine.answer (.memory reply.exitData) (machine.answer (.startImage image) state).2).1
    ExitReported reply contents ((services.perform volume pending.start.run).run machine state).result ∧
      ∀ units, LoadOptions.exitText (Utf16.untilNul units) = LoadOptions.exitText units := by
  intro reply contents
  refine ⟨?_, LoadOptions.exitText_untilNul⟩
  have follows := Program.follows_history machine (services.perform volume pending.start.run) state
  have gives := Machine.gives_history machine (services.perform volume pending.start.run) state
  obtain ⟨ending, first, later, started, split, verdict⟩ := Services.start_follows route follows
  rw [split] at gives
  rw [verdict]
  have given := (Machine.gives_append.mp gives).1
  cases started with
  | @dataless answered null =>
      obtain rfl : answered = reply := given.1
      exact .of_dataless null
  | @copied answered copied freed left =>
      obtain rfl : answered = reply := given.1
      obtain rfl : copied = contents := given.2.1
      exact .of_copied left

section Cut

open Simulation

/-- Exit data of an odd size. What is shown for an unpaired surrogate and 31 surrogate pairs leave room for one byte,
and the next character needs two. -/
def cutData : Buffer :=
  ([0x3d, 0xd8] ++ (List.replicate 31 [0x34, 0xd8, 0x1e, 0xdd]).flatten ++
    [0xe9, 0, 0x62, 0, 0, 0, 0x63, 0, 0x64] : Bytes).toArray

def cutStart : ScriptedTable :=
  { exitStart with script := { exitScript with exit := { status := .loadError, data := some cutData } } }

def cutPending : Pending where
  file := ⟨0x100000, 1, #[1, 2, 3, 4]⟩
  image := #[1, 2, 3, 4]
  path := DevicePath.endNode
  options := none
  device := 7
  route := .firmware imageHandle

end Cut

/-- The letter behind the first character that does not fit would fit, but is not told. -/
theorem start_reports_exit_cut :
    let result := ((ledgerServices.perform ledgerVolume cutPending.start.run).run
      Simulation.ScriptedTable.machine cutStart).result
    let kept := String.ofList ('\uFFFD' :: List.replicate 31 '𝄞')
    result = .error (.programFailed .loadError kept) ∧ kept.utf8ByteSize = 127 ∧
      ∃ text, text = '\uFFFD' :: List.replicate 31 '𝄞' ++ ['é', 'b'] ∧
        LoadOptions.LongestBeginning 128 text kept := by
  obtain ⟨reported, -⟩ := start_reports_exit ledgerServices ledgerVolume cutPending _ rfl
    Simulation.ScriptedTable.machine cutStart
  obtain ⟨text, message, failed, -, present, longest⟩ := reported.fails (by decide +kernel)
  have decoded := Utf16.decode_eq_iff.mpr (present (by decide +kernel))
  obtain rfl : text = '\uFFFD' :: List.replicate 31 '𝄞' ++ ['é', 'b'] := decoded.symm.trans (by decide +kernel)
  have told := reported.uncut (by decide +kernel) (by decide +kernel)
  have kept : message = String.ofList ('\uFFFD' :: List.replicate 31 '𝄞') := by
    obtain ⟨-, same⟩ := BootError.programFailed.inj (Except.error.inj (failed.symm.trans told))
    rw [same, LoadOptions.exitText, Utf16.untilNul, decoded]
    exact congrArg String.ofList (by decide +kernel)
  have ended : StartReply.status
      (Simulation.ScriptedTable.machine.answer (.startImage Simulation.imageHandle) cutStart).1 = .loadError := by
    decide +kernel
  rw [kept, ended] at failed
  rw [kept] at longest
  exact ⟨failed, by decide +kernel, _, rfl, longest⟩

end EfiHandoff
