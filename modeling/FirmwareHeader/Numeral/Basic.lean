namespace FirmwareHeader.Numeral

def digits (base n : Nat) : List Char := Nat.toDigits base n

def decimal (n : Nat) : String := String.ofList (digits 10 n)

def hex (n : Nat) : String := "0x" ++ String.ofList (digits 16 n)

def hexWord (n : Nat) : String := "0x" ++ String.ofList ((digits 16 n).leftpad 8 '0')

def digit? (c : Char) : Option Nat :=
  if '0' ≤ c ∧ c ≤ '9' then some (c.toNat - '0'.toNat)
  else if 'a' ≤ c ∧ c ≤ 'f' then some (c.toNat - 'a'.toNat + 10)
  else if 'A' ≤ c ∧ c ≤ 'F' then some (c.toNat - 'A'.toNat + 10)
  else none

def isDigit (c : Char) : Bool := (digit? c).isSome

/-- The value of the digits of a numeral, all its other characters being passed over. -/
def value (cs : List Char) : Nat := (cs.filterMap digit?).foldl (fun n d => 16 * n + d) 0

theorem digit?_digitChar {d : Nat} (h : d < 16) : digit? (Nat.digitChar d) = some d := by
  have : ∀ d : Fin 16, digit? (Nat.digitChar d) = some d.val := by decide
  exact this ⟨d, h⟩

theorem value_append (cs : List Char) {c : Char} {d : Nat} (h : digit? c = some d) :
    value (cs ++ [c]) = 16 * value cs + d := by
  simp [value, List.filterMap_append, h]

theorem value_digits (n : Nat) : value (digits 16 n) = n := by
  induction n using Nat.strongRecOn with
  | ind n ih =>
    unfold digits at *
    rw [Nat.toDigits_eq_if (by omega)]
    split
    · next h => simp [value, digit?_digitChar h]
    · next h =>
      rw [value_append _ (digit?_digitChar (Nat.mod_lt n (by omega))), ih (n / 16) (by omega)]
      omega

end FirmwareHeader.Numeral
