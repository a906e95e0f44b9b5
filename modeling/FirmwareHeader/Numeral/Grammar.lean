import FirmwareHeader.Numeral.Basic

namespace FirmwareHeader.Numeral

/-- One or more groups of digits, none of them empty, joined by single underscores. -/
def Grouped (cs : List Char) (gs : List (List Char)) : Prop :=
  gs ≠ [] ∧ (∀ g ∈ gs, g ≠ [] ∧ ∀ c ∈ g, isDigit c) ∧ cs = List.intercalate ['_'] gs

/-- The number that digits write in base 16, the last of them counting ones. -/
inductive Writes : List Char → Nat → Prop
  | nil : Writes [] 0
  | snoc {cs : List Char} {n d : Nat} {c : Char} :
      Writes cs n → digit? c = some d → Writes (cs ++ [c]) (n * 16 + d)

end FirmwareHeader.Numeral
