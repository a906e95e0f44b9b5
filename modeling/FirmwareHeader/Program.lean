import FirmwareHeader.CommandLine.Reader
import FirmwareHeader.Job
import FirmwareHeader.Log.Line

namespace FirmwareHeader.Program

open CommandLine Files Log

structure Result where
  code : Nat
  stdout : String
  stderr : String
deriving DecidableEq

def failed (log : String) (failure : Failure) : Result := ⟨failure.code, "", log ++ failure.report⟩

def completed (log : String) : Result := ⟨0, "header_tool: completed successfully\n", log⟩

variable {m : Type → Type} [Monad m] [Store m]

/-- Does what is asked for. `log` makes a text of the records. -/
def serve (log : List Record → String) (request : Request) : m Result := do
  match ← Job.prepare request.image request.version request.spl request.output request.policy with
  | .error failure => return failed (log []) failure
  | .ok job =>
    match ← job.run with
    | (records, .error failure) => return failed (log records) failure
    | (records, .ok _) => return completed (log records)

def run (reader : Reader) (printer : Printer) (threshold : Threshold) (arguments : List String) :
    m Result :=
  match reader.read arguments with
  | .error (.help text) => return ⟨0, text, ""⟩
  | .error (.refused text) => return failed "" (.usage text)
  | .ok args => serve (render printer threshold) args.request

end FirmwareHeader.Program
