import FirmwareHeader.Proofs.Header.Effect

namespace FirmwareHeader.Header

open SignedLength

/-- What comes of a call of `write`, told from the length in word 0 and the size of the image. -/
def outcome (raw size : Nat) : Except Image.Fault Report :=
  let start := headerStart raw
  if 0xFFF0 < raw then .error (.lengthOverflow 0x10000)
  else if size < start + 0x64 then .error (.outOfBounds (firstMissing start size) size)
  else .ok ⟨UInt32.ofNat raw, UInt32.ofNat start, start != raw,
    if size = nominalSize then none else some size⟩

structure Verdict (raw start size : Nat) (result : Except Image.Fault Report) : Prop where
  overflow : 0xFFF0 < raw → result = .error (.lengthOverflow 0x10000)
  succeeds_iff : raw ≤ 0xFFF0 → ((∃ report, result = .ok report) ↔ start + 0x64 ≤ size)
  outOfBounds : raw ≤ 0xFFF0 → size < start + 0x64 →
    ∃ offset, result = .error (.outOfBounds offset size) ∧
      (size ≤ start + 0x10 ∧ offset = start + 0x10 ∨
        size = start + 0x14 ∧ offset = start + 0x14 ∨
        start + 0x18 ≤ size ∧ size ≤ start + 0x60 ∧ offset = start + 0x60)
  patchLevel_unnamed : ∀ n, result ≠ .error (.outOfBounds (start + 0x4C) n)
  unusualSize : ∀ report, result = .ok report →
    ∀ n, report.unusualSize = some n ↔ n = size ∧ size ≠ 65536

theorem firstMissing_cases {start size : Nat} (hstart : start % 4 = 0) (hsize : size % 4 = 0)
    (h : size < start + 0x64) :
    size ≤ start + 0x10 ∧ firstMissing start size = start + 0x10 ∨
    size = start + 0x14 ∧ firstMissing start size = start + 0x14 ∨
    start + 0x18 ≤ size ∧ size ≤ start + 0x60 ∧ firstMissing start size = start + 0x60 := by
  by_cases h10 : size ≤ start + 0x10
  · exact .inl ⟨h10, by rw [firstMissing, if_pos h10]⟩
  · by_cases h14 : size ≤ start + 0x14
    · exact .inr (.inl ⟨by omega, by rw [firstMissing, if_neg h10, if_pos h14]⟩)
    · exact .inr (.inr ⟨by omega, by omega, by rw [firstMissing, if_neg h10, if_neg h14]⟩)

theorem firstMissing_ne_patchLevel (start size : Nat) : firstMissing start size ≠ start + 0x4C := by
  rw [firstMissing]
  split
  · omega
  · split <;> omega

theorem outcome_cases (raw size : Nat) :
    (0xFFF0 < raw ∧ outcome raw size = .error (.lengthOverflow 0x10000)) ∨
    (raw ≤ 0xFFF0 ∧ size < headerStart raw + 0x64 ∧ outcome raw size =
      .error (.outOfBounds (firstMissing (headerStart raw) size) size)) ∨
    (raw ≤ 0xFFF0 ∧ headerStart raw + 0x64 ≤ size ∧ ∃ report, outcome raw size = .ok report ∧
      report.unusualSize = if size = nominalSize then none else some size) := by
  by_cases hraw : 0xFFF0 < raw
  · exact .inl ⟨hraw, by rw [outcome, if_pos hraw]⟩
  · by_cases hfit : size < headerStart raw + 0x64
    · refine .inr (.inl ⟨Nat.le_of_not_lt hraw, hfit, ?_⟩)
      rw [outcome, if_neg hraw, if_pos hfit]
    · refine .inr (.inr ⟨Nat.le_of_not_lt hraw, Nat.le_of_not_lt hfit, ?_⟩)
      rw [outcome, if_neg hraw, if_neg hfit]
      exact ⟨_, rfl, rfl⟩

theorem verdict_outcome {raw size : Nat} (hsize : size % 4 = 0) :
    Verdict raw (headerStart raw) size (outcome raw size) := by
  have hstart : headerStart raw % 4 = 0 := by
    rw [headerStart]
    omega
  rcases outcome_cases raw size with ⟨hraw, houtcome⟩ | ⟨hraw, hfit, houtcome⟩ |
    ⟨hraw, hfit, report, houtcome, hsizes⟩
  · rw [houtcome]
    refine ⟨fun _ => rfl, fun h => by omega, fun h => by omega, ?_, ?_⟩
    · simp
    · simp
  · rw [houtcome]
    refine ⟨fun h => by omega, fun _ => ?_, fun _ _ => ?_, fun n heq => ?_, ?_⟩
    · simp [hfit]
    · exact ⟨_, rfl, firstMissing_cases hstart hsize hfit⟩
    · have hoffset := (Image.Fault.outOfBounds.inj (Except.error.inj heq)).1
      exact firstMissing_ne_patchLevel _ _ hoffset
    · simp
  · rw [houtcome]
    refine ⟨fun h => by omega, fun _ => ?_, fun _ h => by omega, ?_, ?_⟩
    · exact ⟨fun _ => hfit, fun _ => ⟨report, rfl⟩⟩
    · simp
    · rintro report' hreport n
      rw [← Except.ok.inj hreport, hsizes]
      by_cases h : size = nominalSize
      · simp [h, nominalSize]
      · rw [if_neg h]
        rw [nominalSize] at h
        simp [h, eq_comm]

theorem reportOn_eq (image : Image) : reportOn image =
    ⟨UInt32.ofNat (ofImage image).toNat, UInt32.ofNat (headerStart (ofImage image).toNat),
      headerStart (ofImage image).toNat != (ofImage image).toNat,
      if image.size = nominalSize then none else some image.size⟩ := by
  simp only [reportOn, headerStart_ofImage, UInt32.ofNat_toNat, Report.mk.injEq, true_and, and_true]
  rw [Bool.eq_iff_iff, bne_iff_ne, bne_iff_ne, Ne, Ne, UInt32.toNat_inj]

theorem SignedLength.toNat_ofImage (image : Image) :
    ∃ lead, image.read 0 = .ok lead ∧ lead.toNat / 65536 = (ofImage image).toNat :=
  ⟨_, Image.read_of_inside _ image.outside?_zero, (toNat_ofLead _).symm⟩

namespace Imprint

theorem apply_fst (imprint : Imprint) (image : Image) :
    (imprint.apply image).1 = outcome (ofImage image).toNat image.size := by
  rw [apply_eq, fault?_eq, outcome, ← reportOn_eq, headerStart_ofImage]
  by_cases hraw : 0xFFF0 < (ofImage image).toNat
  · rw [if_pos hraw, if_pos hraw]
  · rw [if_neg hraw, if_neg hraw]
    by_cases hfit : image.size < (aligned image).toNat + 0x64
    · rw [if_pos hfit, if_pos hfit]
    · rw [if_neg hfit, if_neg hfit]

/-- Neither the words of the header nor the bytes behind word 0 bear on the result. -/
theorem verdict_apply (image : Image) : ∃ lead start, image.read 0 = .ok lead ∧
    IsLeast {m | 16 ∣ m ∧ lead.toNat / 65536 ≤ m} start ∧
    (∀ imprint : Imprint,
      Verdict (lead.toNat / 65536) start image.size (imprint.apply image).1) ∧
    ∀ (imprint other : Imprint) (image' : Image), image'.size = image.size →
      (image'.read 0).map (·.toNat / 65536) = .ok (lead.toNat / 65536) →
      (other.apply image').1 = (imprint.apply image).1 := by
  obtain ⟨lead, hread, hlead⟩ := toNat_ofImage image
  refine ⟨lead, (aligned image).toNat, hread, ?_, fun imprint => ?_, ?_⟩
  · rw [hlead]
    exact isLeast_aligned image
  · rw [hlead, apply_fst, ← headerStart_ofImage]
    exact verdict_outcome image.size_mod
  · intro imprint other image' hsize hraw
    obtain ⟨lead', hread', hlead'⟩ := toNat_ofImage image'
    rw [hread', hlead] at hraw
    have hraw : lead'.toNat / 65536 = (ofImage image).toNat := Except.ok.inj hraw
    rw [apply_fst, apply_fst, hsize, ← hlead', hraw]

end Imprint

end FirmwareHeader.Header
