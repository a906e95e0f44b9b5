import FirmwareHeader.Proofs.Header.Writing

namespace FirmwareHeader.Header

open SignedLength

namespace SignedLength

theorem aligned_mod (image : Image) : (aligned image).toNat % 16 = 0 := by
  have := toNat_aligned image
  omega

theorem align_aligned (image : Image) : align (aligned image) = aligned image :=
  align_of_dvd (Nat.dvd_of_mod_eq_zero (aligned_mod image))

theorem ofImage_congr {a b : Image} (h : a.word 0 = b.word 0) : ofImage a = ofImage b := by
  rw [ofImage, h, ofImage]

theorem aligned_congr {a b : Image} (h : a.word 0 = b.word 0) : aligned a = aligned b := by
  rw [aligned, ofImage_congr h, aligned]

end SignedLength

theorem remarks_congr {a b : Image} (h : a.word 0 = b.word 0) (hsize : a.size = b.size) :
    remarks a = remarks b := by
  simp only [remarks, ofImage_congr h, aligned_congr h, hsize]

theorem Imprint.lead_congr (imprint : Imprint) {a b : Image} (h : a.word 0 = b.word 0) :
    imprint.lead a = imprint.lead b := by
  rw [lead, lead, aligned_congr h, ofImage_congr h, h]

namespace Field

theorem index_inj (length : UInt32) (f g : Field) : f.index length = g.index length ↔ f = g := by
  constructor
  · cases f <;> cases g <;> simp [index, offset]
  · rintro rfl
    rfl

theorem index_ne_zero (length : UInt32) (f : Field) : f.index length ≠ 0 := by
  cases f <;> simp [index, offset]

theorem offset_le (f : Field) : f.offset ≤ 0x60 := by
  cases f <;> decide

end Field

theorem unplaced?_eq_none_iff (image : Image) :
    unplaced? image = none ↔ (aligned image).toNat + 0x64 ≤ image.size := by
  have hmod := image.size_mod
  have hlength := aligned_mod image
  simp only [unplaced?, List.findSome?_eq_none_iff, Image.outside?_eq_none_iff,
    Field.four_mul_index hlength]
  constructor
  · intro h
    have := h .imageVersion (by simp)
    simp only [Field.offset] at this
    omega
  · intro h f _
    have := f.offset_le
    omega

theorem index_inside {image : Image} (h : unplaced? image = none) (f : Field) :
    4 * f.index (aligned image) < image.size := by
  have hfit := (unplaced?_eq_none_iff image).mp h
  have hoffset := f.offset_le
  rw [Field.four_mul_index (aligned_mod image)]
  omega

def fault? (image : Image) : Option Image.Fault :=
  if greatest < aligned image then some (.lengthOverflow (aligned image)) else unplaced? image

theorem fault?_eq_none_iff (image : Image) : fault? image = none ↔
    (ofImage image).toNat ≤ 0xFFF0 ∧ (aligned image).toNat + 0x64 ≤ image.size := by
  by_cases h : greatest < aligned image
  · rw [fault?, if_pos h]
    rw [greatest_lt_aligned_iff] at h
    simp only [reduceCtorEq, false_iff]
    omega
  · rw [fault?, if_neg h, unplaced?_eq_none_iff]
    rw [greatest_lt_aligned_iff] at h
    omega

theorem unplaced?_of_fault? {image : Image} (h : fault? image = none) :
    unplaced? image = none :=
  (unplaced?_eq_none_iff image).mpr ((fault?_eq_none_iff image).mp h).2

theorem fault?_congr {a b : Image} (hlength : aligned a = aligned b) (hsize : a.size = b.size) :
    fault? a = fault? b := by
  simp only [fault?, unplaced?, Image.outside?, hlength, hsize]

namespace Imprint

variable (imprint : Imprint) (image : Image)

def value : Field → UInt32
  | .magic => magic
  | .signedSize => aligned image
  | .patchLevel => imprint.patchLevel
  | .imageVersion => imprint.version

theorem on_eq : imprint.on image =
    ((((image.put 0 (imprint.lead image)).put
      (Field.magic.index (aligned image)) magic).put
      (Field.signedSize.index (aligned image)) (aligned image)).put
      (Field.imageVersion.index (aligned image)) imprint.version).put
      (Field.patchLevel.index (aligned image)) imprint.patchLevel := by
  simp only [on, words, contents, List.foldl_cons, List.foldl_nil]

@[simp]
theorem size_on : (imprint.on image).size = image.size := by
  simp only [on_eq, Image.size_put]

variable {image}

theorem word_on_field (h : unplaced? image = none) (f : Field) :
    (imprint.on image).word (f.index (aligned image)) = imprint.value image f := by
  have hin := index_inside h
  cases f <;> simp [on_eq, Image.word_put, Field.index_inj, value, hin]

theorem word_on_zero : (imprint.on image).word 0 = imprint.lead image := by
  have hpos := image.four_le_size
  have hne (f : Field) : 0 ≠ f.index (aligned image) := (f.index_ne_zero _).symm
  simp only [on_eq, Image.word_put, hne, false_and, ↓reduceIte, Nat.mul_zero, true_and]
  rw [if_pos (by omega)]

theorem word_on_other {j : Nat} (h0 : j ≠ 0) (hj : ∀ f : Field, j ≠ f.index (aligned image)) :
    (imprint.on image).word j = image.word j := by
  simp only [on_eq, Image.word_put, hj, h0, false_and, ↓reduceIte]

theorem eq_on (h : unplaced? image = none) {result : Image} (hsize : result.size = image.size)
    (hzero : result.word 0 = imprint.lead image)
    (hfield : ∀ f : Field, result.word (f.index (aligned image)) = imprint.value image f)
    (hother : ∀ j, j ≠ 0 → (∀ f : Field, j ≠ f.index (aligned image)) →
      result.word j = image.word j) : result = imprint.on image := by
  apply Image.word_ext
  · rw [hsize, size_on]
  intro j _
  by_cases h0 : j = 0
  · rw [h0, hzero, word_on_zero]
  · by_cases hj : ∃ f : Field, j = f.index (aligned image)
    · obtain ⟨f, rfl⟩ := hj
      rw [hfield, word_on_field imprint h]
    · have hne (f : Field) : j ≠ f.index (aligned image) := fun hf => hj ⟨f, hf⟩
      rw [hother j h0 hne, word_on_other imprint h0 hne]

/-- What comes of a call of `write` on an image, and the image that it leaves. -/
def apply (image : Image) : Except Image.Fault Report × Image :=
  match imprint.write ⟨image, []⟩ with
  | .ok report draft => (.ok report, draft.image)
  | .error fault draft => (.error fault, draft.image)

theorem apply_eq (image : Image) : imprint.apply image =
    match fault? image with
    | some fault => (.error fault, image)
    | none => (.ok (reportOn image), imprint.on image) := by
  rw [apply, write_eq]
  by_cases h : greatest < aligned image
  · simp only [fault?, if_pos h]
  · simp only [fault?, if_neg h]
    cases unplaced? image with
    | some fault => simp only
    | none => simp only

def notices (image : Image) : List Notice :=
  match imprint.write ⟨image, []⟩ with
  | .ok _ draft | .error _ draft => draft.notices

theorem notices_eq (image : Image) :
    imprint.notices image = if greatest < aligned image then [] else remarks image := by
  rw [notices, write_eq]
  by_cases h : greatest < aligned image
  · simp only [if_pos h]
  · simp only [if_neg h, List.nil_append]
    cases unplaced? image with
    | some fault => simp only
    | none => simp only

end Imprint

end FirmwareHeader.Header
