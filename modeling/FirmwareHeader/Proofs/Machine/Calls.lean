import FirmwareHeader.Proofs.Header.Atomicity
import FirmwareHeader.Proofs.Header.Calls
import FirmwareHeader.Proofs.Header.Defects
import FirmwareHeader.Proofs.Machine.Header
import Mathlib.Control.Monad.Basic

namespace FirmwareHeader.Machine

open Header

def work : Call → Work Value
  | .read i => .word <$> load i
  | .check i => (fun _ => .nothing) <$> check i
  | .write i w => (fun _ => .nothing) <$> store i w
  | .patch imprint => .report <$> write imprint
  | .fields => .fields <$> readFields

/-- A fault is an answer, while a trap ends everything. -/
def settle {α : Type} : EStateM.Result Stop (Array UInt8) α →
    Except Trap (Except Image.Fault α × Array UInt8)
  | .ok a bytes => .ok (.ok a, bytes)
  | .error (.fault fault) bytes => .ok (.error fault, bytes)
  | .error (.trap trap) _ => .error trap

def performAll : List Call → Array UInt8 →
    Except Trap (List (Except Image.Fault Value) × Array UInt8)
  | [], bytes => .ok ([], bytes)
  | call :: calls, bytes => do
    let (answer, next) ← settle (work call bytes)
    let (answers, final) ← performAll calls next
    return (answer :: answers, final)

def steps : Call → Editing Value
  | .read i => .word <$> Editing.read i.toNat
  | .check i => (fun _ => .nothing) <$> Editing.check i.toNat
  | .write i w => (fun _ => .nothing) <$> Editing.write i.toNat w
  | .patch imprint => .report <$> imprint.write
  | .fields => .fields <$> look Fields.read

theorem agrees_work {n : Nat} (hn : n < 2 ^ 63) (call : Call) :
    Agrees n (work call) (steps call) := by
  cases call with
  | read i => exact (agrees_load hn i).map _
  | check i => exact (agrees_check hn i).map _
  | write i w => exact (agrees_store hn i w).map _
  | patch imprint => exact (agrees_write hn imprint).map _
  | fields => exact (agrees_readFields hn).map _

def outcome {α : Type} : EStateM.Result Image.Fault Draft α → Except Image.Fault α × Image
  | .ok a draft => (.ok a, draft.image)
  | .error fault draft => (.error fault, draft.image)

theorem outcome_map {α β : Type} (f : α → β) (y : Editing α) (draft : Draft) :
    outcome ((f <$> y) draft) = (outcome (y draft)).map (·.map f) id := by
  rw [map_eq_pure_bind]
  cases hy : y draft with
  | ok a next =>
      rw [Editing.bind_of_ok hy]
      rfl
  | error fault next =>
      rw [Editing.bind_of_error hy]
      rfl

theorem outcome_look {α : Type} (f : Image → Except Image.Fault α) (draft : Draft) :
    outcome (look f draft) = (f draft.image, draft.image) := by
  rw [look]
  cases f draft.image with
  | ok a => rfl
  | error fault => rfl

theorem outcome_steps (call : Call) (image : Image) :
    outcome (steps call ⟨image, []⟩) = call.perform image := by
  cases call with
  | read i =>
      rw [steps, outcome_map, read_eq_look, outcome_look]
      rfl
  | check i =>
      rw [steps, outcome_map, check_eq_look, outcome_look]
      rfl
  | write i w =>
      rw [steps, outcome_map, Editing.write, Call.perform]
      cases image.write i.toNat w with
      | ok next => rfl
      | error fault => rfl
  | patch imprint =>
      rw [steps, outcome_map, Call.perform, Imprint.apply]
      cases imprint.write ⟨image, []⟩ with
      | ok report draft => rfl
      | error fault draft => rfl
  | fields =>
      rw [steps, outcome_map, outcome_look]
      rfl

theorem settle_work {image : Image} (hsize : image.size < 2 ^ 63) (call : Call) :
    (call.perform image).2.size = image.size ∧ settle (work call image.bytes) =
      .ok ((call.perform image).1, (call.perform image).2.bytes) := by
  have hagrees := agrees_work hsize call ⟨image, []⟩ rfl
  rw [← outcome_steps]
  cases hsteps : steps call ⟨image, []⟩ with
  | ok value draft =>
      rw [hsteps] at hagrees
      exact ⟨hagrees.1, by rw [hagrees.2]; rfl⟩
  | error fault draft =>
      rw [hsteps] at hagrees
      exact ⟨hagrees.1, by rw [hagrees.2]; rfl⟩

theorem performAll_eq {image : Image} (hsize : image.size < 2 ^ 63) (calls : List Call) :
    (Call.performAll calls image).2.size = image.size ∧ performAll calls image.bytes =
      .ok ((Call.performAll calls image).1, (Call.performAll calls image).2.bytes) := by
  induction calls generalizing image with
  | nil => exact ⟨rfl, rfl⟩
  | cons call calls ih =>
      obtain ⟨hkept, hcall⟩ := settle_work hsize call
      have hnext : (call.perform image).2.size < 2 ^ 63 := by omega
      obtain ⟨hrest, hcalls⟩ := ih hnext
      refine ⟨hrest.trans hkept, ?_⟩
      simp only [performAll, hcall, bind, Except.bind, hcalls, Call.performAll, pure, Except.pure]

/-- Whatever is done with an image, the machine answers as the image does: nothing that it computes
is too great for its type, and no range of a word ends behind its bytes. -/
theorem calls_never_trap {bytes : Array UInt8} {image : Image}
    (hof : Image.ofBytes bytes = .ok image) (hsize : bytes.size < 2 ^ 63) (calls : List Call) :
    (∃ answers final, Call.performAll calls image = (answers, final) ∧
      performAll calls bytes = .ok (answers, final.bytes) ∧
      final.bytes.size = bytes.size ∧ 0 < final.bytes.size ∧ final.bytes.size % 4 = 0) ∧
    ∀ memory : Array UInt8, memory.size = bytes.size →
      ∀ i range next, wordRange i memory = .ok range next →
        range.stop.toNat = range.start.toNat + 4 ∧ range.stop.toNat ≤ memory.size := by
  obtain rfl := Image.ofBytes_eq_ok hof
  obtain ⟨hkept, hcalls⟩ := performAll_eq hsize calls
  generalize hfinal : (Call.performAll calls image).2 = final at hkept hcalls
  constructor
  · exact ⟨_, final, Prod.ext rfl hfinal, hcalls, hkept, final.size_pos, final.size_mod_four⟩
  · intro memory hmemory i range next hrange
    have hmod : memory.size % 4 = 0 := by rw [hmemory, image.size_mod_four]
    exact wordRange_inside (by omega) i hmod hrange

def edgeCalls : List Call :=
  [.read 28, .read 29, .check 0x4000000000000000, .write 0xFFFFFFFFFFFFFFFF 1,
    .patch ⟨1, 2, .clear⟩, .fields, .write 0 0xFFFF0000, .patch ⟨3, 4, .keep⟩, .fields]

def edgeAnswers : List (Except Image.Fault Value) :=
  [.ok (.word 0), .error (.outOfBounds 116 116), .error (.outOfBounds 0xFFFFFFFFFFFFFFFF 116),
    .error (.outOfBounds 0xFFFFFFFFFFFFFFFF 116), .ok (.report ⟨1, 16, true, some 116⟩),
    .ok (.fields ⟨16, magic, 16, 2, 1⟩), .ok .nothing, .error (.lengthOverflow 0x10000),
    .error (.outOfBounds 0x10010 116)]

theorem calls_never_trap_shortest : ∃ final : Image,
    performAll edgeCalls shortest = .ok (edgeAnswers, final.bytes) ∧ final.bytes.size = 116 := by
  have hsize : shortest.size < 2 ^ 63 := by decide +kernel
  have hanswers : (Call.performAll edgeCalls shortestImage).1 = edgeAnswers := by decide +kernel
  obtain ⟨⟨answers, final, hcalls, hmachine, hkept, _, _⟩, _⟩ :=
    calls_never_trap (Image.ofBytes_bytes shortestImage) hsize edgeCalls
  rw [hcalls] at hanswers
  change answers = edgeAnswers at hanswers
  rw [hanswers] at hmachine
  exact ⟨final, hmachine, hkept⟩

/-- Whatever was done with an image, a call that fails leaves it as it is, on the machine as well. A
header is written in steps: as long as one of its words may lack a place nothing is written, and from
then on nothing can fail. -/
theorem faults_change_nothing (image : Image) (calls : List Call) :
    ∃ answers reached, Call.performAll calls image = (answers, reached) ∧
      (∀ (call : Call) fault left, call.perform reached = (.error fault, left) →
        left = reached) ∧
      (image.size < 2 ^ 63 → performAll calls image.bytes = .ok (answers, reached.bytes) ∧
        ∀ call fault left, settle (work call reached.bytes) = .ok (.error fault, left) →
          left = reached.bytes) ∧
      ∀ imprint : Imprint,
        (∀ n, imprint.Untorn reached (imprint.after reached n) ∧
          imprint.resume (imprint.after reached n).stage (imprint.after reached n).draft =
            imprint.write ⟨reached, []⟩) ∧
        (∃ n result, (imprint.after reached n).result? = some result ∧
          imprint.apply reached = (result, (imprint.after reached n).draft.image)) ∧
        ∀ report left, imprint.apply reached = (.ok report, left) →
          reached.replay (imprint.writesOn reached) = .ok left := by
  generalize hreached : Call.performAll calls image = final
  obtain ⟨answers, reached⟩ := final
  refine ⟨answers, reached, rfl, fun _ _ _ => Call.perform_of_error, ?_, ?_⟩
  · intro hsize
    obtain ⟨hkept, hcalls⟩ := performAll_eq hsize calls
    rw [hreached] at hkept hcalls
    refine ⟨hcalls, fun call fault left hleft => ?_⟩
    obtain ⟨_, hcall⟩ := settle_work (hkept ▸ hsize) call
    rw [hcall] at hleft
    obtain ⟨hanswer, rfl⟩ := Prod.mk.inj (Except.ok.inj hleft)
    exact congrArg Image.bytes (Call.perform_of_error (Prod.ext hanswer rfl))
  · intro imprint
    exact ⟨fun n => ⟨(imprint.reached_after reached n).untorn, imprint.resume_after reached n⟩,
      imprint.exists_result reached, fun _ _ => Imprint.replay_of_apply⟩

theorem faults_change_nothing_shortest : shortestImage.size < 2 ^ 63 ∧ ∃ reached fault,
    performAll edgeCalls shortestImage.bytes = .ok (edgeAnswers, reached) ∧
      settle (work (.patch ⟨3, 4, .keep⟩) reached) = .ok (.error fault, reached) := by
  have hsize : shortestImage.size < 2 ^ 63 := by decide +kernel
  have hanswers : (Call.performAll edgeCalls shortestImage).1 = edgeAnswers := by decide +kernel
  have hperform : ((Call.patch ⟨3, 4, .keep⟩).perform
      (Call.performAll edgeCalls shortestImage).2).1 = .error (.lengthOverflow 0x10000) := by
    decide +kernel
  have hkept := (performAll_eq hsize edgeCalls).1
  obtain ⟨answers, reached, hcalls, _, hmachine, _⟩ :=
    faults_change_nothing shortestImage edgeCalls
  obtain ⟨hall, hfaults⟩ := hmachine hsize
  rw [hcalls] at hanswers hperform hkept
  have hreached : reached.size < 2 ^ 63 := Nat.lt_of_le_of_lt (Nat.le_of_eq hkept) hsize
  obtain ⟨_, hwork⟩ := settle_work hreached (.patch ⟨3, 4, .keep⟩)
  rw [hperform] at hwork
  rw [hfaults _ _ _ hwork] at hwork
  exact ⟨hsize, reached.bytes, _, hanswers ▸ hall, hwork⟩

end FirmwareHeader.Machine
