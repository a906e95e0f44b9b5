import FirmwareHeader.Numeral.Basic

namespace FirmwareHeader.Numeral

def digitChars : List Char := "0123456789abcdef".toList

theorem digitChar_mem {d : Nat} (h : d < 16) : Nat.digitChar d ∈ digitChars := by
  have hall : ∀ d : Fin 16, Nat.digitChar d ∈ digitChars := by decide
  exact hall ⟨d, h⟩

theorem mem_digits {base : Nat} (hbase : 1 < base) (hle : base ≤ 16) {n : Nat} {c : Char}
    (h : c ∈ digits base n) : c ∈ digitChars := by
  induction n using Nat.strongRecOn with
  | ind n ih =>
    rw [digits, Nat.toDigits_eq_if hbase] at h
    split at h
    · next hlt =>
      rw [List.mem_singleton.mp h]
      exact digitChar_mem (by omega)
    · next hge =>
      obtain h | h := List.mem_append.mp h
      · exact ih (n / base) (Nat.div_lt_self (by omega) hbase) h
      · rw [List.mem_singleton.mp h]
        exact digitChar_mem (Nat.lt_of_lt_of_le (Nat.mod_lt n (by omega)) hle)

theorem isDigit_of_mem {c : Char} (h : c ∈ digitChars) : isDigit c := by
  have hall : digitChars.all isDigit := by decide
  exact List.all_eq_true.mp hall c h

theorem not_mem_digits {base : Nat} (hbase : 1 < base) (hle : base ≤ 16) {c : Char}
    (h : c ∉ digitChars) (n : Nat) : c ∉ digits base n :=
  fun hc => h (mem_digits hbase hle hc)

theorem digits_sixteen_inj {m n : Nat} (h : digits 16 m = digits 16 n) : m = n := by
  rw [← value_digits m, h, value_digits]

theorem ofDigitChars_digits (n : Nat) : Nat.ofDigitChars 10 (digits 10 n) 0 = n :=
  Nat.ofDigitChars_toDigits (by omega) (by omega)

theorem digits_ten_inj {m n : Nat} (h : digits 10 m = digits 10 n) : m = n := by
  rw [← ofDigitChars_digits m, h, ofDigitChars_digits]

theorem toList_decimal (n : Nat) : (decimal n).toList = digits 10 n := String.toList_ofList

theorem toList_hex (n : Nat) : (hex n).toList = "0x".toList ++ digits 16 n := by
  simp only [hex, String.toList_append, String.toList_ofList]

theorem toList_hexWord (n : Nat) :
    (hexWord n).toList = "0x".toList ++ (digits 16 n).leftpad 8 '0' := by
  simp only [hexWord, String.toList_append, String.toList_ofList]

end FirmwareHeader.Numeral
