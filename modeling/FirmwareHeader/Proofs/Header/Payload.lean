import FirmwareHeader.Proofs.Header.Defects
import FirmwareHeader.Proofs.Header.ReadBack

namespace FirmwareHeader.Header

open SignedLength

def Report.indices (report : Report) : List Nat :=
  [0x10, 0x14, 0x4C, 0x60].map fun offset => (report.signedLength.toNat + offset) / 4

theorem mem_indices_iff (image : Image) (j : Nat) :
    j ∈ (reportOn image).indices ↔ ∃ f : Field, j = f.index (aligned image) := by
  have hlength := aligned_mod image
  simp only [Report.indices, reportOn, List.map_cons, List.map_nil, List.mem_cons,
    List.not_mem_nil, or_false]
  constructor
  · rintro (rfl | rfl | rfl | rfl)
    · exact ⟨.magic, by simp only [Field.index, Field.offset]; omega⟩
    · exact ⟨.signedSize, by simp only [Field.index, Field.offset]; omega⟩
    · exact ⟨.patchLevel, by simp only [Field.index, Field.offset]; omega⟩
    · exact ⟨.imageVersion, by simp only [Field.index, Field.offset]; omega⟩
  · rintro ⟨f, rfl⟩
    cases f <;> simp only [Field.index, Field.offset] <;> omega

section

variable {image : Image} {j : Nat} (hj : j ≠ 0) (w : UInt32)

include hj

theorem word_put_zero : (image.put j w).word 0 = image.word 0 := by
  rw [Image.word_put, if_neg fun h => hj h.1.symm]

theorem aligned_put : aligned (image.put j w) = aligned image := aligned_congr (word_put_zero hj w)

theorem fault?_put : fault? (image.put j w) = fault? image :=
  fault?_congr (aligned_put hj w) (image.size_put j w)

theorem unplaced?_put (h : unplaced? image = none) : unplaced? (image.put j w) = none := by
  rw [unplaced?_eq_none_iff] at h ⊢
  rwa [aligned_put hj, Image.size_put]

theorem reportOn_put : reportOn (image.put j w) = reportOn image := by
  simp only [reportOn, ofImage_congr (word_put_zero hj w), aligned_put hj, Image.size_put]

namespace Imprint

variable (imprint : Imprint)

theorem notices_put : imprint.notices (image.put j w) = imprint.notices image := by
  rw [notices_eq, notices_eq, aligned_put hj,
    remarks_congr (word_put_zero hj w) (image.size_put j w)]

theorem lead_put : imprint.lead (image.put j w) = imprint.lead image :=
  imprint.lead_congr (word_put_zero hj w)

theorem on_put_of_field (h : unplaced? image = none) {f : Field}
    (hf : j = f.index (aligned image)) : imprint.on (image.put j w) = imprint.on image := by
  have hplaced := unplaced?_put hj w h
  apply eq_on imprint h
  · simp only [size_on, Image.size_put]
  · rw [word_on_zero, imprint.lead_put hj]
  · intro g
    have hword := word_on_field imprint hplaced g
    rw [aligned_put hj] at hword
    rw [hword]
    cases g <;> simp only [value, aligned_put hj]
  · intro i hzero hother
    rw [word_on_other _ hzero (by rwa [aligned_put hj]), Image.word_put,
      if_neg fun hij => hother f (hij.1.trans hf)]

theorem on_put_of_other (h : unplaced? image = none)
    (hother : ∀ f : Field, j ≠ f.index (aligned image)) :
    imprint.on (image.put j w) = (imprint.on image).put j w := by
  have hplaced := unplaced?_put hj w h
  symm
  apply eq_on imprint hplaced
  · simp only [size_on, Image.size_put]
  · rw [word_put_zero hj, word_on_zero, imprint.lead_put hj]
  · intro f
    rw [aligned_put hj, Image.word_put, if_neg fun hf => hother f hf.1.symm,
      word_on_field imprint h]
    cases f <;> simp only [value, aligned_put hj]
  · intro i hzero hne
    rw [aligned_put hj] at hne
    simp only [Image.word_put, size_on, word_on_other imprint hzero hne]

end Imprint

end

theorem Image.write_eq_ok {image edited : Image} {j : Nat} {w : UInt32}
    (h : image.write j w = .ok edited) : image.outside? j = none ∧ edited = image.put j w := by
  rw [Image.write_eq] at h
  cases houtside : image.outside? j with
  | some fault => simp [houtside] at h
  | none =>
      rw [houtside] at h
      exact ⟨rfl, (Except.ok.inj h).symm⟩

namespace Imprint

/-- No word but word 0 has a part in what comes of a call. A word in the way of the header is lost,
and with any other it makes no difference whether it is written before the call or behind it. -/
theorem apply_of_write (imprint : Imprint) {image edited : Image} {j : Nat} {w : UInt32}
    (hj : j ≠ 0) (hwrite : image.write j w = .ok edited) :
    (imprint.apply edited).1 = (imprint.apply image).1 ∧
    imprint.notices edited = imprint.notices image ∧
    (∀ report final, imprint.apply image = (.ok report, final) →
      (j ∈ report.indices → (imprint.apply edited).2 = final) ∧
      (j ∉ report.indices → final.write j w = .ok (imprint.apply edited).2)) ∧
    ∀ fault left, imprint.apply image = (.error fault, left) →
      (imprint.apply edited).2 = edited ∧ left.write j w = .ok edited := by
  obtain ⟨houtside, rfl⟩ := Image.write_eq_ok hwrite
  have hedited : fault? (image.put j w) = fault? image := fault?_put hj w
  refine ⟨?_, imprint.notices_put hj w, ?_, ?_⟩
  · rw [apply_eq, apply_eq, hedited]
    cases fault? image with
    | some fault => rfl
    | none => exact congrArg Except.ok (reportOn_put hj w)
  · intro report final happly
    obtain ⟨hfault, hreport, hfinal⟩ := imprint.apply_cases happly
    have hplaced := unplaced?_of_fault? hfault
    rw [apply_eq, hedited, hfault, hreport, hfinal]
    dsimp only
    refine ⟨fun hmem => ?_, fun hmem => ?_⟩
    · obtain ⟨f, hf⟩ := (mem_indices_iff image j).mp hmem
      exact imprint.on_put_of_field hj w hplaced hf
    · rw [mem_indices_iff, not_exists] at hmem
      have hinside : (imprint.on image).outside? j = none := by
        rwa [Image.outside?, size_on]
      rw [imprint.on_put_of_other hj w hplaced hmem, Image.write_of_inside _ w hinside]
  · intro fault left happly
    rw [apply_eq] at happly
    cases hfault : fault? image with
    | none => simp [hfault] at happly
    | some fault' =>
        rw [hfault] at happly
        obtain ⟨_, rfl⟩ := Prod.mk.inj happly
        rw [apply_eq, hedited, hfault]
        exact ⟨rfl, hwrite⟩

theorem apply_of_write_shortest : ∃ lost kept final,
    shortestImage.write 28 7 = .ok lost ∧ shortestImage.write 1 7 = .ok kept ∧
    (⟨1, 2, .clear⟩ : Imprint).apply shortestImage = (.ok ⟨1, 16, true, some 116⟩, final) ∧
    ((⟨1, 2, .clear⟩ : Imprint).apply lost).2 = final ∧
    final.write 1 7 = .ok ((⟨1, 2, .clear⟩ : Imprint).apply kept).2 := by
  have happly := (⟨1, 2, .clear⟩ : Imprint).apply_shortest
  have hlost : shortestImage.write 28 7 = .ok (shortestImage.put 28 7) :=
    Image.write_of_inside _ 7 (by decide +kernel)
  have hkept : shortestImage.write 1 7 = .ok (shortestImage.put 1 7) :=
    Image.write_of_inside _ 7 (by decide +kernel)
  obtain ⟨_, _, hfield, _⟩ := apply_of_write ⟨1, 2, .clear⟩ (by decide) hlost
  obtain ⟨_, _, hother, _⟩ := apply_of_write ⟨1, 2, .clear⟩ (by decide) hkept
  exact ⟨_, _, _, hlost, hkept, happly, (hfield _ _ happly).1 (by decide),
    (hother _ _ happly).2 (by decide)⟩

end Imprint

end FirmwareHeader.Header
