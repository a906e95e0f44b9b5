import FirmwareHeader.Numeral.Reader
import Mathlib.Algebra.Group.Nat.Defs
import Mathlib.Data.List.Induction

namespace FirmwareHeader.Numeral.Unsigned

inductive Fault
  | empty
  | invalidDigit
  | overflow
deriving DecidableEq

def append (n : UInt32) (c : Char) : Except Fault UInt32 :=
  match digit? c with
  | none => .error .invalidDigit
  | some d =>
    if 16 * n.toNat + d < wordLimit then .ok (16 * n + UInt32.ofNat d) else .error .overflow

/-- Reads digits one after the other. A plus sign may stand before them. -/
def read : List Char → Except Fault UInt32
  | [] => .error .empty
  | ['+'] => .error .invalidDigit
  | '+' :: cs => cs.foldlM append 0
  | cs => cs.foldlM append 0

theorem append_eq {n : UInt32} {c : Char} {d : Nat} (hd : digit? c = some d) : append n c =
    if 16 * n.toNat + d < 2 ^ 32 then .ok (UInt32.ofNat (16 * n.toNat + d))
    else .error .overflow := by
  have hsum : 16 * n + UInt32.ofNat d = UInt32.ofNat (16 * n.toNat + d) := by
    rw [UInt32.ofNat_add, UInt32.ofNat_mul, UInt32.ofNat_toNat]
    rfl
  rw [append, hd, ← hsum]
  rfl

/-- The first digit too many ends the reading, for no digit makes a number less. -/
theorem foldlM_append_of_digits {cs : List Char} (h : ∀ c ∈ cs, isDigit c) : cs.foldlM append 0 =
    if value cs < 2 ^ 32 then .ok (UInt32.ofNat (value cs)) else .error .overflow := by
  induction cs using List.reverseRecOn with
  | nil => rfl
  | append_singleton cs c ih =>
      obtain ⟨d, hd⟩ := Option.isSome_iff_exists.mp (h c (by simp))
      have hinit := ih fun c' hc' => h c' (List.mem_append_left _ hc')
      rw [List.foldlM_append, hinit, value_append cs hd]
      by_cases hlt : value cs < 2 ^ 32
      · have hword : (UInt32.ofNat (value cs)).toNat = value cs := by
          rw [UInt32.toNat_ofNat', Nat.mod_eq_of_lt hlt]
        have happend := append_eq (n := UInt32.ofNat (value cs)) hd
        rw [hword] at happend
        rw [if_pos hlt, ← happend]
        change (append _ c >>= pure) = _
        rw [bind_pure]
      · rw [if_neg hlt, if_neg (by omega)]
        rfl

theorem read_of_digits {cs : List Char} (hne : cs ≠ []) (h : ∀ c ∈ cs, isDigit c) : read cs =
    if value cs < 2 ^ 32 then .ok (UInt32.ofNat (value cs)) else .error .overflow := by
  have hplus : isDigit '+' = false := by decide
  rw [← foldlM_append_of_digits h, read.eq_def]
  split
  · exact absurd rfl hne
  · simp [hplus] at h
  · simp [hplus] at h
  · rfl

end FirmwareHeader.Numeral.Unsigned
