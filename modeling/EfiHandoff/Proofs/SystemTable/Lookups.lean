import EfiHandoff.Proofs.Program.History
import EfiHandoff.SystemTable.Services

/-!
# Lookups behind the system table

Most questions of the loader are answered by looking things up: protocols, variables, files, records and what lies in
memory. Such an answer writes to no record, and takes or gives back no memory.
-/

set_option autoImplicit false

namespace EfiHandoff

open SystemTable

/-- The calls that look things up, among them those that read a file. -/
def SystemTable.Call.LooksUp : SystemTable.Call → Prop
  | .locateProtocol _ | .handleProtocol _ _ | .getVariable _ _ _ | .openVolume _ | .openFile _ _ _ _
  | .closeFile _ | .setPosition _ _ | .getPosition _ | .readFile _ _ | .shimVerify _ _
  | .shimContext _ _ | .fetchRecord _ | .memory _ => True
  | _ => False

def Platform.Call.LooksUp : Platform.Call → Prop
  | .snapshot | .secureBootMode | .trustRoot | .verify _ | .layoutOf _ | .openFile _ | .rootDevice
  | .readFile _ _ | .closeFile _ => True
  | _ => False

def SystemTable.Call.Inquires : SystemTable.Call → Prop
  | .locateProtocol _ | .handleProtocol _ _ | .getVariable _ _ _ | .shimVerify _ _ | .shimContext _ _
  | .fetchRecord _ | .memory _ => True
  | _ => False

def Platform.Call.Files : Platform.Call → Prop
  | .openFile _ | .readFile _ _ | .closeFile _ => True
  | _ => False

theorem SystemTable.Call.Inquires.looksUp {call : SystemTable.Call} (inquires : call.Inquires) : call.LooksUp := by
  cases call <;> first | exact inquires.elim | trivial

private theorem Services.readFlag_inquires (name : String) :
    (readFlag name).Confined SystemTable.Call.Inquires :=
  ⟨trivial, fun _ => trivial⟩

theorem Services.secureBootMode_inquires : secureBootMode.Confined SystemTable.Call.Inquires :=
  (readFlag_inquires _).bind fun _ => (readFlag_inquires _).bind fun _ =>
    (Program.confined_report _).bind fun _ => trivial

private theorem Services.confined_recordOf {α : Type} {image : Handle} {next : Option UInt64 → Act α}
    (rest : ∀ place, (next place).Confined SystemTable.Call.Inquires) :
    (recordOf image >>= next).Confined SystemTable.Call.Inquires :=
  ⟨trivial, fun found => rest (Found.address? found)⟩

private theorem Services.snapshot_inquires (services : Services) :
    services.snapshot.Confined SystemTable.Call.Inquires := by
  refine confined_recordOf fun place => ?_
  cases place with
  | none => trivial
  | some address => exact ⟨trivial, fun _ => trivial⟩

private theorem Shim.verify_inquires (shim : UInt64) (image : Buffer) :
    (Shim.verify shim image).Confined SystemTable.Call.Inquires := by
  unfold Shim.verify
  split
  · exact ⟨trivial, fun _ => trivial⟩
  · trivial

private theorem Shim.layout_inquires (shim : UInt64) (image : Buffer) :
    (Shim.layout shim image).Confined SystemTable.Call.Inquires := by
  have told (result : Except ContextFault Image.Layout) :
      Program.Confined SystemTable.Call.Inquires (do
        Program.report (Fault.reported result)
        return Fault.simplify result : Act _) := (Program.confined_report _).bind fun _ => trivial
  unfold Shim.layout
  by_cases small : image.size < sizeLimit
  · rw [if_pos small]
    exact ⟨trivial, fun reply => told _⟩
  · rw [if_neg small]
    exact told _

theorem Services.verify_inquires (services : Services) (image : Buffer) :
    (services.verify image).Confined SystemTable.Call.Inquires := by
  unfold Services.verify
  cases services.shim with
  | none => trivial
  | some shim => exact Shim.verify_inquires shim image

theorem Services.layoutOf_inquires (services : Services) (image : Buffer) :
    (services.layoutOf image).Confined SystemTable.Call.Inquires := by
  unfold Services.layoutOf
  cases services.shim with
  | none => trivial
  | some shim => exact Shim.layout_inquires shim image

theorem Volume.failure?_success : failure? .success = none := rfl

theorem Volume.failure?_of_ne {status : Status} (failed : status ≠ .success) :
    failure? status = some (.device status) := by
  unfold failure? Status.isSuccess
  rw [beq_eq_false_iff_ne.mpr failed]
  rfl

def SystemTable.Call.Measures (file : UInt64) : SystemTable.Call → Prop
  | .setPosition other _ | .getPosition other | .closeFile other => other = file
  | _ => False

theorem SystemTable.Call.Measures.looksUp {file : UInt64} {call : SystemTable.Call} (measures : call.Measures file) :
    call.LooksUp := by
  cases call <;> first | exact trivial | exact measures.elim

theorem Volume.measure_measures (file : UInt64) :
    (Volume.measure file).Confined (SystemTable.Call.Measures file) := by
  have require (status : Status) :
      Program.Confined (SystemTable.Call.Measures file) (measure.require status).run := by
    unfold measure.require
    split <;> trivial
  unfold Volume.measure
  apply Program.Confined.bind
  · refine Program.Confined.bindExcept ⟨rfl, fun _ => trivial⟩ fun moved => ?_
    refine (require moved).bindExcept fun _ => ?_
    refine Program.Confined.bindExcept ⟨rfl, fun _ => trivial⟩ fun measured => ?_
    refine (require measured.1).bindExcept fun _ => ?_
    refine Program.Confined.bindExcept ⟨rfl, fun _ => trivial⟩ fun rewound => ?_
    exact (require rewound).bindExcept fun _ => trivial
  · intro result
    cases result with
    | ok size => trivial
    | error error => exact ⟨rfl, fun _ => trivial⟩

private theorem Volume.measure_looksUp (file : UInt64) :
    (Volume.measure file).Confined SystemTable.Call.LooksUp :=
  (measure_measures file).mono fun _ => SystemTable.Call.Measures.looksUp

private theorem Volume.openPath_looksUp (volume : Volume) (path : List Char) :
    (volume.openPath path).Confined SystemTable.Call.LooksUp := by
  unfold Volume.openPath
  refine Program.Confined.bind ⟨trivial, fun _ => trivial⟩ fun root => ?_
  cases failure? root.status with
  | some error => trivial
  | none =>
      refine Program.Confined.bind ⟨trivial, fun _ => trivial⟩ fun file => ?_
      refine Program.Confined.bind ⟨trivial, fun _ => trivial⟩ fun _ => ?_
      by_cases missing : file.status = .notFound
      · rw [if_pos missing]
        trivial
      · rw [if_neg missing]
        cases failure? file.status with
        | some error => trivial
        | none => exact measure_looksUp _

private theorem Volume.readRest_looksUp (file : UInt64) (length : Nat) (done : Buffer) :
    (Volume.readRest file length done).Confined SystemTable.Call.LooksUp := by
  induction done using readRest.induct length with
  | case1 done short ih =>
      rw [readRest, dif_pos short]
      refine Program.Confined.bind ⟨trivial, fun _ => trivial⟩ fun reply => ?_
      obtain ⟨status, given⟩ := reply
      dsimp only
      cases failure? status with
      | some error => trivial
      | none =>
          by_cases brought : 0 < (given.extract 0 (length - done.size)).size
          · rw [dif_pos brought]
            exact ih given brought
          · rw [dif_neg brought]
            trivial
  | case2 done full =>
      rw [readRest, dif_neg full]
      trivial

private theorem Volume.rootDevice_inquires (volume : Volume) :
    volume.rootDevice.Confined SystemTable.Call.Inquires := by
  unfold Volume.rootDevice
  refine Program.Confined.bind ⟨trivial, fun _ => trivial⟩ fun found => ?_
  cases found.address? with
  | none => trivial
  | some address =>
      refine Program.Confined.bind ⟨trivial, fun _ => trivial⟩ fun memory => ?_
      cases copyPath memory with
      | ok path => trivial
      | error node => exact (Program.confined_report _).bind fun _ => trivial

theorem Services.answer_inquires (services : Services) (volume : Option Volume) {question : Platform.Call}
    (looksUp : question.LooksUp) (other : ¬ question.Files) :
    (services.answer volume question).Confined SystemTable.Call.Inquires := by
  cases question with
  | openFile | readFile | closeFile => exact absurd trivial other
  | snapshot => exact services.snapshot_inquires
  | secureBootMode => exact secureBootMode_inquires
  | trustRoot => trivial
  | verify image => exact services.verify_inquires image
  | layoutOf image => exact services.layoutOf_inquires image
  | rootDevice =>
      cases volume with
      | none => trivial
      | some volume => exact volume.rootDevice_inquires
  | _ => exact looksUp.elim

theorem Services.answer_looksUp (services : Services) (volume : Option Volume) {question : Platform.Call}
    (looksUp : question.LooksUp) :
    (services.answer volume question).Confined SystemTable.Call.LooksUp := by
  cases question with
  | openFile path =>
      cases volume with
      | none => trivial
      | some volume => exact volume.openPath_looksUp path
  | readFile file length => exact Volume.readRest_looksUp _ _ _
  | closeFile file => exact ⟨trivial, fun _ => trivial⟩
  | _ => exact (services.answer_inquires volume looksUp id).mono fun _ => SystemTable.Call.Inquires.looksUp

end EfiHandoff
