import FirmwareHeader.Log.Record

namespace FirmwareHeader.Log

abbrev Threshold := Option Level

namespace Threshold

def admits (threshold : Threshold) (level : Level) : Bool :=
  threshold.any fun highest => level.rank ≤ highest.rank

def ofName? (name : String) : Option Threshold :=
  let name := name.map Char.toUpper
  if name = "OFF" then some none
  else (Level.all.find? fun level => level.name = name).map some

end Threshold

def admitted (threshold : Threshold) (records : List Record) : List Record :=
  records.filter fun record => threshold.admits record.level

/-- What is printed of a record, given how many have been printed before it. It may tell, say, the
time. -/
abbrev Printer := Nat → Record → String

def render (printer : Printer) (threshold : Threshold) (records : List Record) : String :=
  String.join ((admitted threshold records).mapIdx printer)

def indent (text : String) : String :=
  String.ofList (text.toList.flatMap fun c => if c = '\n' then "\n    ".toList else [c])

def timeless : Printer := fun _ record =>
  let level := record.level.name
  "[" ++ level ++ String.ofList (List.replicate (5 - level.length) ' ') ++ " " ++ record.source ++
    "] " ++ indent record.text ++ "\n"

end FirmwareHeader.Log
