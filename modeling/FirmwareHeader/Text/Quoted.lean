import FirmwareHeader.Numeral.Basic
import FirmwareHeader.Text.Extending
import FirmwareHeader.Text.Ignorable
import FirmwareHeader.Text.Unprintable

namespace FirmwareHeader.Text

def isControl (c : Char) : Bool := c.toNat < 0x20 || (0x7F ≤ c.toNat && c.toNat < 0xA0)

/-- A character that is seen where it is printed, and only there. -/
def standsAlone (c : Char) : Bool :=
  !(isControl c || ignorable.has c || extending.has c || unprintable.has c)

def codePoint (c : Char) : List Char :=
  ['\\', 'u', '\x7b'] ++ Numeral.digits 16 c.toNat ++ ['\x7d']

def escape (mark c : Char) : List Char :=
  if c = '\x00' then ['\\', '0']
  else if c = '\t' then ['\\', 't']
  else if c = '\n' then ['\\', 'n']
  else if c = '\r' then ['\\', 'r']
  else if c = '\\' ∨ c = mark then ['\\', c]
  else if standsAlone c then [c]
  else codePoint c

def quoted (mark : Char) (cs : List Char) : List Char := mark :: cs.flatMap (escape mark) ++ [mark]

def quotedText (s : String) : String := String.ofList (quoted '\x22' s.toList)

def quotedChar (c : Char) : String := String.ofList (quoted '\x27' [c])

end FirmwareHeader.Text
