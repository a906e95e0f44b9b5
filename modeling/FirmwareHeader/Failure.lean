import FirmwareHeader.Files.Store
import FirmwareHeader.Image.Fault
import FirmwareHeader.Numeral.Reader

namespace FirmwareHeader

inductive NumberName
  | version
  | spl
deriving DecidableEq

def NumberName.text : NumberName → String
  | .version => "version"
  | .spl => "spl"

inductive FileAction
  | read
  | write
deriving DecidableEq

def FileAction.text : FileAction → String
  | .read => "read"
  | .write => "write"

inductive Failure
  | usage (text : String)
  | noImage (path : String)
  | badNumber (name : NumberName) (text : String) (cause : Numeral.Fault)
  | badImage (cause : Image.Fault)
  | badFile (action : FileAction) (path : String) (cause : Files.Fault)
deriving DecidableEq

namespace Failure

def message : Failure → String
  | .usage text => text
  | .noImage path => path ++ " does not exist"
  | .badNumber name text _ =>
    name.text ++ " " ++ Text.quotedText text ++ " is not valid hexadecimal"
  | .badImage _ => "malformed image"
  | .badFile action path _ => "cannot " ++ action.text ++ " " ++ path

def causes : Failure → List String
  | .usage _ | .noImage _ => []
  | .badNumber _ _ cause => [cause.message]
  | .badImage cause => [cause.message]
  | .badFile _ _ cause => [cause.message]

/-- The exit status. A missing image counts as misuse of the command. -/
def code : Failure → Nat
  | .usage _ | .noImage _ => 2
  | _ => 1

/-- What is printed. A text on usage is complete as it is. -/
def report (failure : Failure) : String :=
  match failure with
  | .usage text => text
  | _ => "header_tool ERROR: " ++ failure.message ++ "\n" ++
      String.join (failure.causes.map fun cause => "\tsource: " ++ cause ++ "\n")

end Failure

end FirmwareHeader
