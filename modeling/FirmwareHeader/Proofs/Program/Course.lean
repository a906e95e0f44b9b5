import FirmwareHeader.Program
import FirmwareHeader.Proofs.Job.Course

namespace FirmwareHeader.Program

open CommandLine Files Files.Layout Files.Store Header Log

def job (request : Request) : Except Failure Job := do
  let version ← Job.number .version request.version
  let patchLevel ← Job.number .spl request.spl
  return ⟨request.image, version, patchLevel, request.output, request.policy⟩

def conclude (log : String) : Option Failure → Result
  | none => completed log
  | some failure => failed log failure

variable {σ : Type} [Store (StateM σ)]

abbrev runIn (reader : Reader) (printer : Printer) (threshold : Threshold)
    (arguments : List String) (s : σ) : Result × σ :=
  (run reader printer threshold arguments : StateM σ Result).run s

abbrev serveIn (log : List Record → String) (request : Request) (s : σ) : Result × σ :=
  (serve log request : StateM σ Result).run s

theorem runIn_of_args {reader : Reader} {arguments : List String} {args : Args}
    (h : reader.read arguments = .ok args) (printer : Printer) (threshold : Threshold) (s : σ) :
    runIn reader printer threshold arguments s =
      serveIn (render printer threshold) args.request s := by
  rw [runIn, run, h]

variable [Layout σ] [LawfulStore σ] {request : Request} {s t : σ}

theorem prepare_run (request : Request) (s : σ) :
    (Job.prepare request.image request.version request.spl request.output request.policy :
      StateM σ (Except Failure Job)).run s =
      match fileAt s request.image with
      | none => (.error (.noImage request.image), s)
      | some _ => (job request, s) := by
  refine (run_bind_of (LawfulStore.isFile_run s request.image)).trans ?_
  cases fileAt s request.image with
  | none => rfl
  | some bytes => rfl

theorem serveIn_of_missing (h : fileAt s request.image = none) (log : List Record → String) :
    serveIn log request s =
      (conclude (log []) (some (.noImage request.image)), s) := by
  have hprepare := prepare_run request s
  rw [h] at hprepare
  exact (run_bind_of hprepare).trans rfl

theorem serveIn_of_misread {bytes : Array UInt8} {failure : Failure}
    (h : fileAt s request.image = some bytes) (hjob : job request = .error failure)
    (log : List Record → String) :
    serveIn log request s = (conclude (log []) (some failure), s) := by
  have hprepare := prepare_run request s
  rw [h, hjob] at hprepare
  exact (run_bind_of hprepare).trans rfl

theorem serveIn_of_job {bytes : Array UInt8} {j : Job} {records : List Record}
    {result : Except Failure Report} (h : fileAt s request.image = some bytes)
    (hjob : job request = .ok j) (hrun : j.runIn s = ((records, result), t))
    (log : List Record → String) :
    serveIn log request s = (conclude (log records)
      (match result with
      | .ok _ => none
      | .error failure => some failure), t) := by
  have hprepare := prepare_run request s
  rw [h, hjob] at hprepare
  refine (run_bind_of hprepare).trans ?_
  cases result with
  | error failure => exact (run_bind_of hrun).trans rfl
  | ok report => exact (run_bind_of hrun).trans rfl

inductive Course (request : Request) (s : σ) : List Record → Option Failure → σ → Prop
  | missing (hfile : fileAt s request.image = none) :
      Course request s [] (some (.noImage request.image)) s
  | misread {bytes failure} (hfile : fileAt s request.image = some bytes)
      (hjob : job request = .error failure) : Course request s [] (some failure) s
  | failed {bytes j records failure t} (hfile : fileAt s request.image = some bytes)
      (hjob : job request = .ok j) (hcourse : Job.Course j s records (.error failure) t) :
      Course request s records (some failure) t
  | completed {bytes j records report t} (hfile : fileAt s request.image = some bytes)
      (hjob : job request = .ok j) (hcourse : Job.Course j s records (.ok report) t) :
      Course request s records none t

/-- What is made of the records has no part in anything but the text that stands for them. -/
theorem serveIn_course (request : Request) (s : σ) : ∃ records failure t,
    (∀ log, serveIn log request s = (conclude (log records) failure, t)) ∧
      Course request s records failure t := by
  cases hfile : fileAt s request.image with
  | none => exact ⟨_, _, _, serveIn_of_missing hfile, .missing hfile⟩
  | some bytes =>
      cases hjob : job request with
      | error failure => exact ⟨_, _, _, serveIn_of_misread hfile hjob, .misread hfile hjob⟩
      | ok j =>
          obtain ⟨records, result, t, hrun, hcourse⟩ := j.runIn_course s
          have hserve := serveIn_of_job hfile hjob hrun
          cases result with
          | error failure => exact ⟨_, _, _, hserve, .failed hfile hjob hcourse⟩
          | ok report => exact ⟨_, _, _, hserve, .completed hfile hjob hcourse⟩

end FirmwareHeader.Program
