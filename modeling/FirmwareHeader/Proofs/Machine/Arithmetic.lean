import FirmwareHeader.Header.SignedLength
import FirmwareHeader.Image.Fault
import Mathlib.Algebra.Group.Nat.Defs

namespace FirmwareHeader.Machine

open Header

/-- What a machine does not let pass: a result that its type is too narrow for, and bytes that are
not in memory. -/
inductive Trap
  | overflow
  | outOfRange
deriving DecidableEq

inductive Stop
  | fault (fault : Image.Fault)
  | trap (trap : Trap)
deriving DecidableEq

abbrev Work := EStateM Stop (Array UInt8)

/-- A result in `width` bits, `exact` being its value if there were no bound on them. -/
def within {α : Type} (width exact : Nat) (result : α) : Work α :=
  if exact < 2 ^ width then pure result else throw (.trap .overflow)

def sum (a b : UInt64) : Work UInt64 := within 64 (a.toNat + b.toNat) (a + b)

def sum32 (a b : UInt32) : Work UInt32 := within 32 (a.toNat + b.toNat) (a + b)

def difference32 (a b : UInt32) : Work UInt32 :=
  if b ≤ a then pure (a - b) else throw (.trap .overflow)

def shiftLeft32 (a : UInt32) (n : Nat) : Work UInt32 :=
  within 32 (a.toNat * 2 ^ n) (a <<< UInt32.ofNat n)

def product? (a b : UInt64) : Option UInt64 :=
  if a.toNat * b.toNat < 2 ^ 64 then some (a * b) else none

def saturatedProduct (a b : UInt64) : UInt64 := (product? a b).getD (UInt64.ofNat (2 ^ 64 - 1))

def align (raw : UInt32) : Work UInt32 :=
  let rest := raw % SignedLength.alignment
  if rest = 0 then pure raw else do
    sum32 raw (← difference32 SignedLength.alignment rest)

theorem within_of_lt {α : Type} {width exact : Nat} (h : exact < 2 ^ width) (result : α) :
    within width exact result = pure result := if_pos h

theorem toNat_rest (raw : UInt32) : (raw % SignedLength.alignment).toNat = raw.toNat % 16 := by
  simp [SignedLength.alignment]

theorem rest_le (raw : UInt32) : raw % SignedLength.alignment ≤ SignedLength.alignment := by
  rw [UInt32.le_iff_toNat_le, toNat_rest]
  simp only [SignedLength.alignment, UInt32.reduceToNat]
  omega

theorem align_eq (raw : UInt32) : align raw =
    if raw.toNat ≤ 0xFFFFFFF0 then pure (SignedLength.align raw) else throw (.trap .overflow) := by
  have hrest := toNat_rest raw
  have hlt := raw.toNat_lt
  by_cases hzero : raw % SignedLength.alignment = 0
  · rw [hzero] at hrest
    have hmod : raw.toNat % 16 = 0 := hrest.symm
    rw [if_pos (by omega)]
    simp only [align, SignedLength.align, if_pos hzero]
  · have hmod : raw.toNat % 16 ≠ 0 := by
      rw [← hrest]
      exact fun h => hzero (UInt32.toNat.inj h)
    have hpad : (SignedLength.alignment - raw % SignedLength.alignment).toNat =
        16 - raw.toNat % 16 := by
      rw [UInt32.toNat_sub_of_le _ _ (rest_le raw), hrest]
      rfl
    simp only [align, SignedLength.align, if_neg hzero, difference32, if_pos (rest_le raw),
      pure_bind, sum32, within, hpad]
    by_cases hle : raw.toNat ≤ 0xFFFFFFF0
    · rw [if_pos hle, if_pos (by omega)]
    · rw [if_neg hle, if_neg (by omega)]

theorem align_of_le {raw : UInt32} (h : raw.toNat ≤ 0xFFFFFFF0) :
    align raw = pure (SignedLength.align raw) := by rw [align_eq, if_pos h]

end FirmwareHeader.Machine
