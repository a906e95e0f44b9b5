import FirmwareHeader.CommandLine.Parameter

namespace FirmwareHeader.CommandLine

inductive Argument
  | plain
  | endOfOptions
  | help
  | keepFlags
  | bare (p : Parameter)
  | valued (p : Parameter) (value : String)
  | overfull (flag value : String)
  | unknown (shown : String)
deriving DecidableEq

namespace Argument

def ofLong (cs : List Char) : Argument :=
  let name := String.ofList (cs.takeWhile (· ≠ '='))
  let value := ((cs.dropWhile (· ≠ '=')).tail?).map String.ofList
  match Parameter.ofName? name, value with
  | some p, none => .bare p
  | some p, some value => .valued p value
  | none, none =>
    if name = keepFlagsName then .keepFlags
    else if name = helpName then .help
    else .unknown ("--" ++ name)
  | none, some value =>
    if name = keepFlagsName ∨ name = helpName then .overfull ("--" ++ name) value
    else .unknown ("--" ++ name)

/-- Behind a single dash: a letter, and a value if anything follows. One equals sign in front of the
value is not part of it. -/
def ofShort (letter : Char) (cs : List Char) : Argument :=
  if letter = helpLetter then .help
  else match Parameter.ofLetter? letter, cs with
  | none, _ => .unknown (String.ofList ['-', letter])
  | some p, [] => .bare p
  | some p, '=' :: value => .valued p (String.ofList value)
  | some p, value => .valued p (String.ofList value)

def ofString (text : String) : Argument :=
  match text.toList with
  | ['-', '-'] => .endOfOptions
  | '-' :: '-' :: cs => ofLong cs
  | '-' :: letter :: cs => ofShort letter cs
  | _ => .plain

end Argument

end FirmwareHeader.CommandLine
