namespace FirmwareHeader.CommandLine

/-- The options that take a value. None of them may be left out. -/
inductive Parameter
  | image
  | version
  | spl
  | output
deriving DecidableEq

namespace Parameter

def all : List Parameter := [.image, .version, .spl, .output]

def name : Parameter → String
  | .image => "image"
  | .version => "version"
  | .spl => "spl"
  | .output => "output"

def letter : Parameter → Char
  | .image => 'i'
  | .version => 'v'
  | .spl => 's'
  | .output => 'o'

def ofName? (name : String) : Option Parameter := all.find? fun p => p.name = name

def ofLetter? (letter : Char) : Option Parameter := all.find? fun p => p.letter = letter

def shown (p : Parameter) : String := "--" ++ p.name ++ " <" ++ p.name.map Char.toUpper ++ ">"

end Parameter

def keepFlagsName : String := "preserve-flags"

def helpName : String := "help"

def helpLetter : Char := 'h'

inductive Item
  | parameter (p : Parameter)
  | keepFlags
deriving DecidableEq

def Item.shown : Item → String
  | .parameter p => p.shown
  | .keepFlags => "--" ++ keepFlagsName

end FirmwareHeader.CommandLine
