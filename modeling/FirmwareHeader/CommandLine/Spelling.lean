import FirmwareHeader.CommandLine.Parameter

namespace FirmwareHeader.CommandLine

inductive Spelling
  | letter
  | letterGlued
  | letterEquals
  | name
  | nameEquals
deriving DecidableEq

namespace Spelling

def arguments (p : Parameter) (value : String) : Spelling → List String
  | .letter => [String.ofList ['-', p.letter], value]
  | .letterGlued => [String.ofList ['-', p.letter] ++ value]
  | .letterEquals => [String.ofList ['-', p.letter, '='] ++ value]
  | .name => ["--" ++ p.name, value]
  | .nameEquals => ["--" ++ p.name ++ "=" ++ value]

/-- A value on its own must not look like an option, and one behind a letter must be there and not
begin with an equals sign. -/
def Suits (value : String) : Spelling → Prop
  | .letter | .name => value.toList.head? = some '-' → value = "-"
  | .letterGlued => value ≠ "" ∧ value.toList.head? ≠ some '='
  | .letterEquals | .nameEquals => True

instance (value : String) (spelling : Spelling) : Decidable (spelling.Suits value) := by
  cases spelling <;> simp only [Suits] <;> infer_instance

end Spelling

end FirmwareHeader.CommandLine
