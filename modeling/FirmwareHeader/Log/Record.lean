import FirmwareHeader.Header.Fields
import FirmwareHeader.Header.Notice

namespace FirmwareHeader.Log

open Header Numeral

inductive Level
  | error
  | warn
  | info
  | debug
  | trace
deriving DecidableEq

def Level.all : List Level := [.error, .warn, .info, .debug, .trace]

def Level.name : Level → String
  | .error => "ERROR"
  | .warn => "WARN"
  | .info => "INFO"
  | .debug => "DEBUG"
  | .trace => "TRACE"

def Level.rank : Level → Nat
  | .error => 1
  | .warn => 2
  | .info => 3
  | .debug => 4
  | .trace => 5

inductive Record
  | opened (size : Nat) (path : String)
  | noticed (notice : Notice)
  | written (aligned raw version patchLevel : UInt32)
  | header (fields : Fields)
deriving DecidableEq

namespace Record

def level : Record → Level
  | .noticed (.unusualSize _) => .warn
  | _ => .debug

def source : Record → String
  | .noticed _ => "amdsl_header::header"
  | _ => "amdsl_header"

def text : Record → String
  | .opened size path => "read " ++ decimal size ++ " bytes from " ++ path
  | .noticed notice => notice.text
  | .written aligned raw version patchLevel =>
    "signed length " ++ hex aligned.toNat ++ " (stored " ++ hex raw.toNat ++ "), version " ++
      hexWord version.toNat ++ ", spl " ++ hexWord patchLevel.toNat
  | .header fields => fields.text

end Record

end FirmwareHeader.Log
