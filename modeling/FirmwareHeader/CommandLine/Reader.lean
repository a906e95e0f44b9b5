import FirmwareHeader.CommandLine.Parameter
import FirmwareHeader.Header.SignedLength

namespace FirmwareHeader.CommandLine

open Header

structure Args where
  image : String
  version : String
  spl : String
  output : String
  keepFlags : Bool
deriving DecidableEq

structure Request where
  image : String
  version : String
  spl : String
  output : String
  policy : FlagPolicy
deriving DecidableEq

namespace Args

def request (args : Args) : Request :=
  ⟨args.image, args.version, args.spl, args.output, if args.keepFlags then .keep else .clear⟩

def value (args : Args) : Parameter → String
  | .image => args.image
  | .version => args.version
  | .spl => args.spl
  | .output => args.output

def values (args : Args) : Item → List (Option String)
  | .parameter p => [some (args.value p)]
  | .keepFlags => if args.keepFlags then [none] else []

end Args

inductive Stop
  | help (text : String)
  | refused (text : String)
deriving DecidableEq

structure Mention where
  item : Item
  value : Option String
deriving DecidableEq

def valuesOf (ms : List Mention) (item : Item) : List (Option String) :=
  (ms.filter (·.item = item)).map (·.value)

/-- What comes of arguments when the options that stand before them have been read. -/
structure Reader where
  resume : List Mention → List String → Except Stop Args

def Reader.read (reader : Reader) (arguments : List String) : Except Stop Args :=
  reader.resume [] arguments

end FirmwareHeader.CommandLine
