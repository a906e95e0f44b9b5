import FirmwareHeader.CommandLine.Message
import FirmwareHeader.Program

namespace FirmwareHeader.Main

open CommandLine Files Log

def faultOfCode (code : UInt32) (text : String) : Fault :=
  match code with
  | 2 => .missing
  | 20 => .notDirectory
  | 21 => .isDirectory
  | 36 => .nameTooLong
  | _ => .other (text ++ " (os error " ++ Numeral.decimal code.toNat ++ ")")

def faultOfError : IO.Error → Fault
  | .noFileOrDirectory _ code text
  | .alreadyExists _ code text
  | .inappropriateType _ code text
  | .invalidArgument _ code text
  | .noSuchThing _ code text
  | .permissionDenied _ code text
  | .resourceExhausted _ code text
  | .interrupted _ code text
  | .hardwareFault code text
  | .illegalOperation code text
  | .otherError code text
  | .protocolError code text
  | .resourceBusy code text
  | .resourceVanished code text
  | .timeExpired code text
  | .unsatisfiedConstraints code text
  | .unsupportedOperation code text => faultOfCode code text
  | .unexpectedEof => .other "unexpected end of file"
  | .userError text => .other text

def attempt {α : Type} (path : String) (action : IO α) : IO (Except Fault α) := do
  if '\x00' ∈ path.toList then return .error .nulInPath
  try return .ok (← action)
  catch error => return .error (faultOfError error)

instance : Store IO where
  isFile path := do
    try return (← (← IO.FS.realPath path).metadata).type == .file
    catch _ => return false
  read path := attempt path do
    return (← (← IO.FS.Handle.mk path .read).readBinToEnd).data
  write path bytes := attempt path (IO.FS.writeBinFile path ⟨bytes⟩)

def threshold : IO Threshold := do
  return ((← IO.getEnv "RUST_LOG").bind Threshold.ofName?).getD (some .warn)

def run (arguments : List String) : IO Program.Result := do
  Program.run .leftToRight timeless (← threshold) arguments

end FirmwareHeader.Main

def main (arguments : List String) : IO UInt32 := do
  let result ← FirmwareHeader.Main.run arguments
  IO.print result.stdout
  IO.eprint result.stderr
  return UInt32.ofNat result.code
