import FirmwareHeader.Proofs.Header.Effect
import FirmwareHeader.Proofs.Machine.Arithmetic

namespace FirmwareHeader.Header.SignedLength

theorem align_le_limit {raw : UInt32} (h : raw.toNat ≤ 0xFFFFFFF0) :
    (align raw).toNat ≤ 0xFFFFFFF0 :=
  (align_le_iff h (by decide)).mpr h

theorem align_align {raw : UInt32} (h : raw.toNat ≤ 0xFFFFFFF0) : align (align raw) = align raw :=
  align_of_dvd (dvd_align h)

theorem align_mono {lower raw : UInt32} (hle : lower ≤ raw) (h : raw.toNat ≤ 0xFFFFFFF0) :
    align lower ≤ align raw := by
  rw [UInt32.le_iff_toNat_le] at hle ⊢
  have hraw : raw.toNat ≤ (align raw).toNat := (align_le_iff h (dvd_align h)).mp (Nat.le_refl _)
  exact (align_le_iff (Nat.le_trans hle h) (dvd_align h)).mpr (Nat.le_trans hle hraw)

theorem align_ofLead_lt_iff (lead : UInt32) :
    (align (ofLead lead)).toNat < 2 ^ 16 ↔ (ofLead lead).toNat ≤ 0xFFF0 := by
  rw [toNat_align_ofLead]
  omega

theorem ofLead_withLength_align (policy : FlagPolicy) {lead : UInt32}
    (h : (ofLead lead).toNat ≤ 0xFFF0) :
    ofLead (policy.withLength lead (align (ofLead lead))) = align (ofLead lead) :=
  policy.ofLead_withLength lead ((align_ofLead_lt_iff lead).mpr h)

/-- Alignment stays within 32 bits just up to the last multiple of sixteen, and there it is the
least multiple that is great enough. Of the lengths that word 0 holds, those up to `0xFFF0` can be
put back when they are aligned. -/
theorem align_rounds_up :
    (∀ raw : UInt32, Machine.align raw =
      if raw.toNat ≤ 0xFFFFFFF0 then pure (align raw) else throw (.trap .overflow)) ∧
    (∀ raw : UInt32, raw.toNat ≤ 0xFFFFFFF0 →
      IsLeast {m | 16 ∣ m ∧ raw.toNat ≤ m} (align raw).toNat ∧
      (∀ m, 16 ∣ m → ((align raw).toNat ≤ m ↔ raw.toNat ≤ m)) ∧
      (∀ lower : UInt32, lower ≤ raw → align lower ≤ align raw) ∧
      (align raw).toNat ≤ 0xFFFFFFF0 ∧ align (align raw) = align raw) ∧
    ∀ lead : UInt32,
      ((align (ofLead lead)).toNat < 2 ^ 16 ↔ lead.toNat / 65536 ≤ 0xFFF0) ∧
      (¬greatest < align (ofLead lead) ↔ lead.toNat / 65536 ≤ 0xFFF0) ∧
      (lead.toNat / 65536 ≤ 0xFFF0 → ∀ policy : FlagPolicy,
        let stored := policy.withLength lead (align (ofLead lead))
        ofLead stored = align (ofLead lead) ∧ align (ofLead stored) = align (ofLead lead)) := by
  refine ⟨Machine.align_eq, fun raw h => ?_, fun lead => ?_⟩
  · exact ⟨isLeast_align h, fun m hm => align_le_iff h hm, fun lower hle => align_mono hle h,
      align_le_limit h, align_align h⟩
  · rw [← toNat_ofLead, greatest_lt_align_ofLead_iff, Nat.not_lt]
    refine ⟨align_ofLead_lt_iff lead, Iff.rfl, fun h policy => ?_⟩
    have hlt := toNat_ofLead_lt lead
    have hstored := ofLead_withLength_align policy h
    exact ⟨hstored, by rw [hstored, align_align (by omega)]⟩

theorem align_rounds_up_last :
    IsLeast {m | 16 ∣ m ∧ 0xFFFFFFE1 ≤ m} 0xFFFFFFF0 ∧
    ((align 0xFFFFFFE1).toNat ≤ 0xFFFFFFE0 ↔ 0xFFFFFFE1 ≤ 0xFFFFFFE0) ∧
    align 0xFFFFFFE0 ≤ align 0xFFFFFFE1 ∧
    ofLead (FlagPolicy.clear.withLength 0xFFE1BEEF 0xFFF0) = 0xFFF0 ∧
    ofLead (FlagPolicy.keep.withLength 0xFFE1BEEF 0xFFF0) = 0xFFF0 := by
  obtain ⟨_, hword, hlead⟩ := align_rounds_up
  obtain ⟨hleast, hmultiple, hmono, _⟩ := hword 0xFFFFFFE1 (by decide)
  obtain ⟨_, _, hstored⟩ := hlead 0xFFE1BEEF
  exact ⟨hleast, hmultiple 0xFFFFFFE0 (by decide), hmono 0xFFFFFFE0 (by decide),
    (hstored (by decide) .clear).1, (hstored (by decide) .keep).1⟩

end FirmwareHeader.Header.SignedLength
