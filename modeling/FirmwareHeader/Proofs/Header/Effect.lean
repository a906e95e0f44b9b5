import FirmwareHeader.Proofs.Header.ReadBack
import FirmwareHeader.Proofs.Header.Defects
import Mathlib.Order.Bounds.Defs

namespace FirmwareHeader.Header

open SignedLength

theorem SignedLength.isLeast_align {raw : UInt32} (h : raw.toNat ≤ 0xFFFFFFF0) :
    IsLeast {m | 16 ∣ m ∧ raw.toNat ≤ m} (align raw).toNat := by
  constructor
  · exact ⟨dvd_align h, (align_le_iff h (dvd_align h)).mp (Nat.le_refl _)⟩
  · rintro m ⟨hm, hle⟩
    exact (align_le_iff h hm).mpr hle

theorem SignedLength.isLeast_aligned (image : Image) :
    IsLeast {m | 16 ∣ m ∧ (ofImage image).toNat ≤ m} (aligned image).toNat := by
  have hlt := toNat_ofImage_lt image
  exact isLeast_align (by omega)

theorem FlagPolicy.byte_withLength (policy : FlagPolicy) (lead : UInt32) {length : UInt32}
    (h : length.toNat < 65536) :
    Word.byte (policy.withLength lead length) 0 = Word.byte lead 0 ∧
    Word.byte (policy.withLength lead length) 1 =
      (match policy with
      | .clear => 0
      | .keep => Word.byte lead 1) ∧
    (Word.byte (policy.withLength lead length) 2).toNat +
      256 * (Word.byte (policy.withLength lead length) 3).toNat = length.toNat := by
  have hnew := policy.toNat_withLength lead length h
  refine ⟨?_, ?_, ?_⟩
  · apply UInt8.toNat.inj
    simp only [Word.toNat_byte, hnew, Nat.shiftRight_eq_div_pow]
    cases policy <;> simp [mask] <;> omega
  · apply UInt8.toNat.inj
    simp only [Word.toNat_byte, hnew, Nat.shiftRight_eq_div_pow]
    cases policy <;> simp [mask, Word.toNat_byte] <;> omega
  · simp only [Word.toNat_byte, hnew, Nat.shiftRight_eq_div_pow]
    cases policy <;> simp [mask] <;> omega

namespace Imprint

variable (imprint : Imprint)

def places (report : Report) : List (Nat × UInt32) :=
  [(report.signedLength.toNat + 0x10, magic),
    (report.signedLength.toNat + 0x14, report.signedLength),
    (report.signedLength.toNat + 0x4C, imprint.patchLevel),
    (report.signedLength.toNat + 0x60, imprint.version)]

structure Effect (image final : Image) (report : Report) : Prop where
  size_eq : final.size = image.size
  rawLength_eq : (image.read 0).map (·.toNat / 65536) = .ok report.rawLength.toNat
  isLeast_signedLength :
    IsLeast {m | 16 ∣ m ∧ report.rawLength.toNat ≤ m} report.signedLength.toNat
  realigned_iff : report.realigned = true ↔ report.signedLength ≠ report.rawLength
  byte_zero : final.bytes[0]? = image.bytes[0]?
  of_not_realigned : report.realigned = false → ∀ k, k < 4 → final.bytes[k]? = image.bytes[k]?
  of_realigned : report.realigned = true →
    (imprint.policy = .clear → final.bytes[1]? = some 0) ∧
    (imprint.policy = .keep → final.bytes[1]? = image.bytes[1]?) ∧
    ∃ low high : UInt8, final.bytes[2]? = some low ∧ final.bytes[3]? = some high ∧
      low.toNat + 256 * high.toNat = report.signedLength.toNat
  byte_place : ∀ p ∈ imprint.places report, ∀ k, k < 4 →
    final.bytes[p.1 + k]? = some (Word.byte p.2 k)
  disjoint : (imprint.places report).Pairwise fun p q => p.1 + 4 ≤ q.1
  inside : ∀ p ∈ imprint.places report, 4 ≤ p.1 ∧ p.1 + 4 ≤ image.size
  byte_other : ∀ k, 4 ≤ k → (∀ p ∈ imprint.places report, k < p.1 ∨ p.1 + 4 ≤ k) →
    final.bytes[k]? = image.bytes[k]?

variable {image : Image}

theorem mem_places_iff (p : Nat × UInt32) : p ∈ imprint.places (reportOn image) ↔
    ∃ f : Field, p = (4 * f.index (aligned image), imprint.value image f) := by
  have hindex := Field.four_mul_index (aligned_mod image)
  simp only [hindex]
  constructor
  · intro hp
    simp only [places, List.mem_cons, List.not_mem_nil, or_false] at hp
    rcases hp with rfl | rfl | rfl | rfl
    · exact ⟨.magic, rfl⟩
    · exact ⟨.signedSize, rfl⟩
    · exact ⟨.patchLevel, rfl⟩
    · exact ⟨.imageVersion, rfl⟩
  · rintro ⟨f, rfl⟩
    cases f <;> simp [places, reportOn, Field.offset, value]

theorem byte_on {j k : Nat} (hj : 4 * j < image.size) (hk : k < 4) :
    (imprint.on image).bytes[4 * j + k]? = some (Word.byte ((imprint.on image).word j) k) :=
  (Image.byte_word _ (by rwa [size_on]) hk).symm

theorem byte_on_lead {k : Nat} (hk : k < 4) :
    (imprint.on image).bytes[k]? = some (Word.byte (imprint.lead image) k) := by
  have hpos := image.four_le_size
  have hbyte := imprint.byte_on (show 4 * 0 < image.size by omega) hk
  rwa [Nat.mul_zero, Nat.zero_add, word_on_zero] at hbyte

theorem byte_lead {k : Nat} (hk : k < 4) :
    some (Word.byte (image.word 0) k) = image.bytes[k]? := by
  have hpos := image.four_le_size
  have hbyte := image.byte_word (i := 0) (k := k) (by omega) hk
  rwa [Nat.mul_zero, Nat.zero_add] at hbyte

theorem byte_on_other {k : Nat} (hk : 4 ≤ k)
    (h : ∀ f : Field, k < 4 * f.index (aligned image) ∨ 4 * f.index (aligned image) + 4 ≤ k) :
    (imprint.on image).bytes[k]? = image.bytes[k]? := by
  refine Image.byte_congr (imprint.size_on image) (word_on_other imprint ?_ ?_)
  · omega
  · intro f hf
    have := h f
    omega

theorem lead_of_aligned (h : aligned image = ofImage image) :
    imprint.lead image = image.word 0 := by
  rw [lead, if_pos h]

section

variable (h : fault? image = none)

include h

theorem byte_zero_lead : Word.byte (imprint.lead image) 0 = Word.byte (image.word 0) 0 := by
  by_cases heq : aligned image = ofImage image
  · rw [imprint.lead_of_aligned heq]
  · have hraw := ((fault?_eq_none_iff image).mp h).1
    have hal := toNat_aligned image
    rw [lead, if_neg heq]
    exact (imprint.policy.byte_withLength (image.word 0) (by omega)).1

theorem effect_on : imprint.Effect image (imprint.on image) (reportOn image) where
  size_eq := imprint.size_on image
  rawLength_eq := by
    rw [Image.read_of_inside _ image.outside?_zero]
    exact congrArg Except.ok (toNat_ofLead _).symm
  isLeast_signedLength := isLeast_aligned image
  realigned_iff := by simp [reportOn]
  byte_zero := by
    rw [imprint.byte_on_lead (by omega), imprint.byte_zero_lead h, byte_lead (by omega)]
  of_not_realigned := by
    intro hfalse k hk
    have heq : aligned image = ofImage image := by simpa [reportOn] using hfalse
    rw [imprint.byte_on_lead hk, imprint.lead_of_aligned heq, byte_lead hk]
  of_realigned := by
    intro htrue
    have hne : aligned image ≠ ofImage image := by simpa [reportOn] using htrue
    have hraw := ((fault?_eq_none_iff image).mp h).1
    have hal := toNat_aligned image
    obtain ⟨_, hflags, hlength⟩ :=
      imprint.policy.byte_withLength (image.word 0) (show (aligned image).toNat < 65536 by omega)
    have hlead : imprint.lead image = imprint.policy.withLength (image.word 0) (aligned image) := by
      rw [lead, if_neg hne]
    rw [← hlead] at hflags hlength
    refine ⟨?_, ?_, _, _, imprint.byte_on_lead (by omega), imprint.byte_on_lead (by omega), hlength⟩
    · intro hclear
      rw [imprint.byte_on_lead (by omega), hflags, hclear]
    · intro hkeep
      rw [imprint.byte_on_lead (by omega), hflags, hkeep, byte_lead (by omega)]
  byte_place := by
    intro p hp k hk
    obtain ⟨f, rfl⟩ := (imprint.mem_places_iff p).mp hp
    have hplaced := unplaced?_of_fault? h
    rw [imprint.byte_on (index_inside hplaced f) hk, word_on_field imprint hplaced]
  disjoint := by simp [places]
  inside := by
    intro p hp
    obtain ⟨f, rfl⟩ := (imprint.mem_places_iff p).mp hp
    have hin := index_inside (unplaced?_of_fault? h) f
    have hzero := f.index_ne_zero (aligned image)
    have hmod := image.size_mod
    omega
  byte_other := by
    intro k hk hother
    apply byte_on_other imprint hk
    intro f
    exact hother _ ((imprint.mem_places_iff _).mpr ⟨f, rfl⟩)

end

/-- All that a call changes, when it succeeds, are the four words of the header and, if the length
was no multiple of sixteen, the length in word 0 and the flags beside it. -/
theorem effect_of_apply {image final : Image} {report : Report}
    (h : imprint.apply image = (.ok report, final)) : imprint.Effect image final report := by
  obtain ⟨hfault, hreport, hfinal⟩ := imprint.apply_cases h
  rw [hreport, hfinal]
  exact imprint.effect_on hfault

theorem effect_of_apply_shortest : ∃ final,
    (⟨1, 2, .clear⟩ : Imprint).apply shortestImage = (.ok ⟨1, 16, true, some 116⟩, final) ∧
    (⟨1, 2, .clear⟩ : Imprint).Effect shortestImage final ⟨1, 16, true, some 116⟩ ∧
    final.bytes[0]? = some 0xFF ∧ final.bytes[1]? = some 0 := by
  have hfault : fault? shortestImage = none := by decide +kernel
  have hreport : reportOn shortestImage = ⟨1, 16, true, some 116⟩ := by decide +kernel
  have happly := (⟨1, 2, .clear⟩ : Imprint).apply_eq shortestImage
  simp only [hfault, hreport] at happly
  have heffect := effect_of_apply _ happly
  have hzero : shortestImage.bytes[0]? = some 0xFF := by decide +kernel
  exact ⟨_, happly, heffect, heffect.byte_zero.trans hzero, (heffect.of_realigned rfl).1 rfl⟩

end Imprint

end FirmwareHeader.Header
