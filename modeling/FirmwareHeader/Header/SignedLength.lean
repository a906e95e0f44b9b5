namespace FirmwareHeader.Header

namespace SignedLength

def alignment : UInt32 := 16

def greatest : UInt32 := 0xFFFF

/-- Word 0 of an image holds the length in its upper half. -/
def ofLead (lead : UInt32) : UInt32 := lead >>> 16

def align (raw : UInt32) : UInt32 :=
  if raw % alignment = 0 then raw else raw + (alignment - raw % alignment)

theorem toNat_ofLead (lead : UInt32) : (ofLead lead).toNat = lead.toNat / 65536 := by
  simp [ofLead, Nat.shiftRight_eq_div_pow]

theorem toNat_align {raw : UInt32} (h : raw.toNat ≤ 0xFFFFFFF0) :
    (align raw).toNat = (raw.toNat + 15) / 16 * 16 := by
  have hr : (raw % alignment).toNat = raw.toNat % 16 := by simp [alignment]
  by_cases h0 : raw % alignment = 0
  · rw [align, if_pos h0]
    rw [h0] at hr
    simp at hr
    omega
  · have hne : raw.toNat % 16 ≠ 0 := by
      intro hz
      exact h0 (UInt32.toNat.inj (by rw [hr, hz]; rfl))
    rw [align, if_neg h0, UInt32.toNat_add, UInt32.toNat_sub, hr]
    simp [alignment]
    omega

theorem dvd_align {raw : UInt32} (h : raw.toNat ≤ 0xFFFFFFF0) : 16 ∣ (align raw).toNat := by
  rw [toNat_align h]
  exact Nat.dvd_mul_left 16 _

theorem align_le_iff {raw : UInt32} (h : raw.toNat ≤ 0xFFFFFFF0) {m : Nat} (hm : 16 ∣ m) :
    (align raw).toNat ≤ m ↔ raw.toNat ≤ m := by
  rw [toNat_align h]
  omega

theorem align_of_dvd {raw : UInt32} (h : 16 ∣ raw.toNat) : align raw = raw := by
  have hmod : raw % alignment = 0 := by
    apply UInt32.toNat.inj
    rw [UInt32.toNat_mod]
    exact Nat.mod_eq_zero_of_dvd h
  rw [align, if_pos hmod]

end SignedLength

/-- What becomes of bits 8 to 15 of word 0 when the length above them is rewritten. Bits 0 to 7 are
always kept. -/
inductive FlagPolicy
  | clear
  | keep
deriving DecidableEq, Inhabited

def FlagPolicy.mask : FlagPolicy → UInt32
  | .clear => 0xFF
  | .keep => 0xFFFF

def FlagPolicy.withLength (policy : FlagPolicy) (lead length : UInt32) : UInt32 :=
  (lead &&& policy.mask) ||| (length <<< 16)

theorem FlagPolicy.toNat_withLength (policy : FlagPolicy) (lead length : UInt32)
    (h : length.toNat < 65536) : (policy.withLength lead length).toNat =
      lead.toNat % (policy.mask.toNat + 1) + 65536 * length.toNat := by
  have hlow : (lead &&& policy.mask).toNat = lead.toNat % (policy.mask.toNat + 1) := by
    cases policy
    · exact Nat.and_two_pow_sub_one_eq_mod lead.toNat 8
    · exact Nat.and_two_pow_sub_one_eq_mod lead.toNat 16
  have hlt : (lead &&& policy.mask).toNat < 2 ^ 16 := by
    have := UInt32.toNat_lt lead
    rw [hlow]
    cases policy <;> simp [mask] <;> omega
  have hshift : (length <<< 16).toNat = 2 ^ 16 * length.toNat := by
    simp [Nat.shiftLeft_eq]
    omega
  rw [withLength, UInt32.toNat_or, hshift, Nat.or_comm, ← Nat.two_pow_add_eq_or_of_lt hlt, hlow,
    Nat.add_comm]

end FirmwareHeader.Header
