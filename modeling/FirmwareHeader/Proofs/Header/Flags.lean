import FirmwareHeader.Proofs.Header.Effect

namespace FirmwareHeader.Header

open SignedLength

theorem FlagPolicy.byte_withLength_congr (policy other : FlagPolicy) (lead : UInt32)
    {length : UInt32} (h : length.toNat < 65536) {k : Nat} (hk : k < 4) (hne : k ≠ 1) :
    Word.byte (policy.withLength lead length) k = Word.byte (other.withLength lead length) k := by
  obtain ⟨hzero, _, hlength⟩ := policy.byte_withLength lead h
  obtain ⟨hzero', _, hlength'⟩ := other.byte_withLength lead h
  have hlow := (Word.byte (policy.withLength lead length) 2).toNat_lt
  have hlow' := (Word.byte (other.withLength lead length) 2).toNat_lt
  match k, hk with
  | 0, _ => rw [hzero, hzero']
  | 1, _ => exact absurd rfl hne
  | 2, _ | 3, _ =>
      apply UInt8.toNat.inj
      omega

/-- What two calls on an image leave, the first of which clears the flags while the second keeps
them. Word 0 is rewritten by both of them or by none. -/
structure Contrast (image cleared kept : Image) (rewritten : Prop) : Prop where
  size_cleared : cleared.size = image.size
  size_kept : kept.size = image.size
  byte_eq : ∀ k, k ≠ 1 → cleared.bytes[k]? = kept.bytes[k]?
  byte_one_ne_iff : cleared.bytes[1]? ≠ kept.bytes[1]? ↔ rewritten ∧ image.bytes[1]? ≠ some 0
  byte_one_of_ne : cleared.bytes[1]? ≠ kept.bytes[1]? →
    cleared.bytes[1]? = some 0 ∧ kept.bytes[1]? = image.bytes[1]?

theorem Contrast.refl (image : Image) : Contrast image image image False where
  size_cleared := rfl
  size_kept := rfl
  byte_eq _ _ := rfl
  byte_one_ne_iff := by simp
  byte_one_of_ne h := absurd rfl h

namespace Imprint

section

variable (imprint : Imprint) (policy : FlagPolicy) {image : Image}

theorem word_on_congr {j : Nat} (hj : j ≠ 0) :
    ({ imprint with policy }.on image).word j = (imprint.on image).word j := by
  simp only [on_eq, Image.word_put, Image.size_put, hj, false_and, ↓reduceIte]

variable (h : fault? image = none)

include h

theorem byte_lead_congr {k : Nat} (hk : k < 4) (hne : k ≠ 1) :
    Word.byte ({ imprint with policy }.lead image) k = Word.byte (imprint.lead image) k := by
  by_cases heq : aligned image = ofImage image
  · rw [lead_of_aligned _ heq, lead_of_aligned _ heq]
  · have hraw := ((fault?_eq_none_iff image).mp h).1
    have hal := toNat_aligned image
    rw [lead, lead, if_neg heq, if_neg heq]
    exact FlagPolicy.byte_withLength_congr _ _ _ (by omega) hk hne

theorem byte_on_congr {k : Nat} (hne : k ≠ 1) :
    ({ imprint with policy }.on image).bytes[k]? = (imprint.on image).bytes[k]? := by
  by_cases hk : k < 4
  · rw [byte_on_lead _ hk, byte_on_lead _ hk, imprint.byte_lead_congr policy h hk hne]
  · refine Image.byte_congr ?_ (imprint.word_on_congr policy ?_)
    · simp only [size_on]
    · omega

theorem contrast_on (version patchLevel : UInt32) :
    Contrast image ((⟨version, patchLevel, .clear⟩ : Imprint).on image)
      ((⟨version, patchLevel, .keep⟩ : Imprint).on image) ((reportOn image).realigned = true) := by
  have hcleared := effect_on ⟨version, patchLevel, .clear⟩ h
  have hkept := effect_on ⟨version, patchLevel, .keep⟩ h
  have hbyte (k : Nat) (hk : k ≠ 1) :=
    byte_on_congr ⟨version, patchLevel, .keep⟩ .clear h hk
  cases hrealigned : (reportOn image).realigned with
  | true =>
      have hzero := (hcleared.of_realigned hrealigned).1 rfl
      have hsame := (hkept.of_realigned hrealigned).2.1 rfl
      refine ⟨hcleared.size_eq, hkept.size_eq, hbyte, ?_, fun _ => ⟨hzero, hsame⟩⟩
      rw [hzero, hsame]
      exact ⟨fun hne => ⟨rfl, hne.symm⟩, fun hne => hne.2.symm⟩
  | false =>
      have hsame := hcleared.of_not_realigned hrealigned 1 (by omega)
      have hsame' := hkept.of_not_realigned hrealigned 1 (by omega)
      have heq := hsame.trans hsame'.symm
      refine ⟨hcleared.size_eq, hkept.size_eq, hbyte, ?_, fun hne => absurd heq hne⟩
      exact ⟨fun hne => absurd heq hne, fun hne => absurd hne.1 Bool.false_ne_true⟩

end

theorem byte_one_applyAll (first : Imprint) (rest : List Imprint) (image : Image) :
    (applyAll rest (first.apply image).2).2.bytes[1]? = (first.apply image).2.bytes[1]? := by
  cases h : fault? image with
  | some fault => simp only [apply_eq, h, applyAll_of_fault h]
  | none =>
      simp only [apply_eq, h, applyAll_on h]
      rw [byte_on_lead _ (by omega), byte_on_lead _ (by omega)]
      rfl

/-- What is to become of the flags has no part in the result, in what is said or in any other byte
than the one that holds them, and the first call settles it. -/
theorem policies_contrasted (image : Image) (version patchLevel : UInt32) :
    let clearing : Imprint := ⟨version, patchLevel, .clear⟩
    let keeping : Imprint := ⟨version, patchLevel, .keep⟩
    (clearing.apply image).1 = (keeping.apply image).1 ∧
    clearing.notices image = keeping.notices image ∧
    Contrast image (clearing.apply image).2 (keeping.apply image).2
      (∃ report, (clearing.apply image).1 = .ok report ∧ report.realigned = true) ∧
    (keeping.apply (clearing.apply image).2).2 = (clearing.apply image).2 ∧
    (clearing.apply (keeping.apply image).2).2 = (keeping.apply image).2 ∧
    ∀ (first : Imprint) (rest : List Imprint),
      (applyAll rest (first.apply image).2).2.bytes[1]? = (first.apply image).2.bytes[1]? := by
  intro clearing keeping
  have hnotices : clearing.notices image = keeping.notices image := by
    rw [notices_eq, notices_eq]
  cases h : fault? image with
  | some fault =>
      have happly (imprint : Imprint) : imprint.apply image = (.error fault, image) := by
        rw [apply_eq, h]
      refine ⟨?_, hnotices, ?_, ?_, ?_, fun first rest => byte_one_applyAll first rest image⟩
      · rw [happly, happly]
      · simpa only [happly, reduceCtorEq, false_and, exists_false] using Contrast.refl image
      · rw [happly, happly]
      · rw [happly, happly]
  | none =>
      have happly (imprint : Imprint) :
          imprint.apply image = (.ok (reportOn image), imprint.on image) := by rw [apply_eq, h]
      refine ⟨?_, hnotices, ?_, ?_, ?_, fun first rest => byte_one_applyAll first rest image⟩
      · rw [happly, happly]
      · simpa only [happly, Except.ok.injEq, exists_eq_left'] using
          contrast_on h version patchLevel
      · rw [happly, apply_on h]
      · rw [happly, apply_on h]

end Imprint

end FirmwareHeader.Header
