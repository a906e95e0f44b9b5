import FirmwareHeader.CommandLine.Reading

namespace FirmwareHeader.CommandLine

def programName : String := "amdsl-header"

def usage : String :=
  "USAGE:\n    " ++ programName ++ " [OPTIONS] " ++
    " ".intercalate (Parameter.all.map (·.shown)) ++ "\n"

def help : String :=
  programName ++ " \nPatch the signed-image header of an AmdSL firmware binary\n\n" ++ usage ++ "
OPTIONS:
    -h, --help                 Print help information
    -i, --image <IMAGE>        Firmware image to patch
    -o, --output <OUTPUT>      Where to write the patched image. May be the input itself
        --preserve-flags       Keep bits 8..16 of word 0 when the signed length is realigned,
                               instead of clearing them as previously released images do
    -s, --spl <SPL>            Security patch level, in hexadecimal
    -v, --version <VERSION>    Firmware version, in hexadecimal
"

def refusal (headline : String) (absent : List Parameter) : Stop :=
  .refused ("error: " ++ headline ++ "\n" ++
    String.join (absent.map fun p => "    " ++ p.shown ++ "\n") ++ "\n" ++
    usage ++ "\nFor more information try --help\n")

def Complaint.stop : Complaint → Stop
  | .help => .help CommandLine.help
  | .unexpected argument =>
    refusal ("Found argument '" ++ argument ++
      "' which wasn't expected, or isn't valid in this context") []
  | .overfull flag value =>
    refusal ("The value '" ++ value ++ "' was provided to '" ++ flag ++
      "' but it wasn't expecting any more values") []
  | .valueless p =>
    refusal ("The argument '" ++ p.shown ++ "' requires a value but none was supplied") []
  | .repeated item =>
    refusal ("The argument '" ++ item.shown ++
      "' was provided more than once, but cannot be used multiple times") []
  | .missing ps => refusal "The following required arguments were not provided:" ps

def Reader.leftToRight : Reader where
  resume ms arguments := (Reading.resume ms arguments).mapError (·.stop)

end FirmwareHeader.CommandLine
