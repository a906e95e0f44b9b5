import FirmwareHeader.Text.Blank
import FirmwareHeader.Text.Quoted

namespace FirmwareHeader.Numeral

open Text

inductive Fault
  | empty
  | invalidDigit (c : Char)
  | underscore
  | tooLarge
deriving DecidableEq

def Fault.message : Fault → String
  | .empty => "no digits"
  | .invalidDigit c => "invalid character " ++ quotedChar c
  | .underscore => "underscores may only separate digits"
  | .tooLarge => "number too large to fit in target type"

def dropMark : List Char → List Char
  | '0' :: 'x' :: cs => cs
  | '0' :: 'X' :: cs => cs
  | cs => cs

/-- What is left of a text to be read as digits: neither the blanks around it nor one `0x` in front
belong to the number. -/
def body (text : String) : List Char := dropMark (trim text.toList)

def isForeign (c : Char) : Bool := !isDigit c && c != '_'

def groups : List Char → List (List Char)
  | [] => [[]]
  | c :: cs =>
    match groups cs with
    | [] => [[c]]
    | g :: gs => if c = '_' then [] :: g :: gs else (c :: g) :: gs

def wordLimit : Nat := 0x100000000

/-- A character that cannot occur at all is named before a misplaced underscore, and a misplaced
underscore before the size of the number. -/
def readDigits (cs : List Char) : Except Fault UInt32 :=
  if cs = [] then .error .empty
  else match cs.find? isForeign with
  | some c => .error (.invalidDigit c)
  | none =>
    if [] ∈ groups cs then .error .underscore
    else if value cs < wordLimit then .ok (UInt32.ofNat (value cs))
    else .error .tooLarge

def read (text : String) : Except Fault UInt32 := readDigits (body text)

end FirmwareHeader.Numeral
