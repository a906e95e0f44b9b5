namespace FirmwareHeader.Files

/-- Empty names are left out: slashes in a row count as one. -/
structure Path where
  absolute : Bool
  names : List String
  endsInSlash : Bool
deriving DecidableEq

namespace Path

def pieces : List Char → List (List Char)
  | [] => [[]]
  | c :: cs =>
    match pieces cs with
    | [] => [[c]]
    | p :: ps => if c = '/' then [] :: p :: ps else (c :: p) :: ps

def ofString (text : String) : Path where
  absolute := text.toList.head? = some '/'
  names := ((pieces text.toList).filter (· ≠ [])).map String.ofList
  endsInSlash := text.toList.getLast? = some '/'

end Path

end FirmwareHeader.Files
