import FirmwareHeader.Proofs.Header.Footprint

namespace FirmwareHeader.Header

open SignedLength

theorem FlagPolicy.ofLead_withLength (policy : FlagPolicy) (lead : UInt32) {length : UInt32}
    (h : length.toNat < 65536) : ofLead (policy.withLength lead length) = length := by
  apply UInt32.toNat.inj
  rw [toNat_ofLead, policy.toNat_withLength lead length h]
  have hmask : policy.mask.toNat + 1 ≤ 65536 := by cases policy <;> decide
  have hlow : lead.toNat % (policy.mask.toNat + 1) < policy.mask.toNat + 1 :=
    Nat.mod_lt _ (by omega)
  omega

def Report.again (report : Report) : Report :=
  { report with rawLength := report.signedLength, realigned := false }

namespace Imprint

def applyAll : List Imprint → Image → List (Except Image.Fault Report) × Image
  | [], image => ([], image)
  | imprint :: rest, image =>
    let (result, next) := imprint.apply image
    let (results, final) := applyAll rest next
    (result :: results, final)

theorem applyAll_of_fault {fault : Image.Fault} (hfault : fault? image = some fault)
    (imprints : List Imprint) : applyAll imprints image =
      (List.replicate imprints.length (.error fault), image) := by
  induction imprints with
  | nil => rfl
  | cons imprint rest ih =>
      simp only [applyAll, apply_eq, hfault, ih, List.length_cons, List.replicate_succ]

section

variable {image : Image} (h : fault? image = none) (first second : Imprint)

include h

theorem ofImage_on : ofImage (first.on image) = aligned image := by
  rw [ofImage, word_on_zero, lead]
  by_cases heq : aligned image = ofImage image
  · rw [if_pos heq, heq, ofImage]
  · have hraw := ((fault?_eq_none_iff image).mp h).1
    have hal := toNat_aligned image
    rw [if_neg heq, FlagPolicy.ofLead_withLength _ _ (by omega)]

theorem aligned_on : aligned (first.on image) = aligned image := by
  rw [aligned, ofImage_on h, align_aligned]

theorem fault?_on : fault? (first.on image) = none :=
  (fault?_congr (aligned_on h first) (size_on first image)).trans h

theorem reportOn_on : reportOn (first.on image) = (reportOn image).again := by
  simp only [reportOn, Report.again, ofImage_on h, aligned_on h, size_on, bne_self_eq_false]

theorem lead_on : second.lead (first.on image) = first.lead image := by
  rw [lead, aligned_on h, ofImage_on h, if_pos rfl, word_on_zero]

/-- A header over a header leaves nothing of the first but what became of word 0. -/
theorem on_on : second.on (first.on image) = { second with policy := first.policy }.on image := by
  have hplaced := unplaced?_of_fault? h
  have hplaced' := unplaced?_of_fault? (fault?_on h first)
  apply Imprint.eq_on _ hplaced
  · simp only [size_on]
  · rw [word_on_zero, lead_on h]
    rfl
  · intro f
    have hsecond := word_on_field second hplaced' f
    rw [aligned_on h] at hsecond
    rw [hsecond]
    cases f <;> simp only [value, aligned_on h]
  · intro j hzero hother
    rw [word_on_other _ hzero (by rwa [aligned_on h]), word_on_other _ hzero hother]

theorem apply_on : second.apply (first.on image) =
    (.ok (reportOn image).again, { second with policy := first.policy }.on image) := by
  rw [apply_eq, fault?_on h]
  simp only [reportOn_on h, on_on h]

theorem applyAll_on (rest : List Imprint) : applyAll rest (first.on image) =
    (List.replicate rest.length (.ok (reportOn image).again),
      { rest.getLastD first with policy := first.policy }.on image) := by
  induction rest generalizing first with
  | nil => rfl
  | cons second rest ih =>
      have hnext := ih { second with policy := first.policy }
      simp only [applyAll, apply_on h, hnext, List.length_cons, List.replicate_succ,
        List.getLastD_cons]
      cases rest with
      | nil => rfl
      | cons third rest => simp only [List.getLastD_cons]

end

/-- However often a header is written, the last call decides what it says and the first call what
becomes of word 0. If the first call fails, so does every other, and the image stays as it was. -/
theorem applyAll_cons_eq (image : Image) (first : Imprint) (rest : List Imprint) :
    (match first.apply image with
    | (.ok report, _) => ∃ final,
        { rest.getLastD first with policy := first.policy }.apply image = (.ok report, final) ∧
        applyAll (first :: rest) image = (.ok report :: List.replicate rest.length
          (.ok ⟨report.signedLength, report.signedLength, false, report.unusualSize⟩), final)
    | (.error fault, _) =>
        applyAll (first :: rest) image =
          (List.replicate (rest.length + 1) (.error fault), image)) ∧
    ∀ policy, (applyAll [first, { first with policy }] image).2 = (first.apply image).2 := by
  cases h : fault? image with
  | some fault =>
      have hfirst : first.apply image = (.error fault, image) := by rw [apply_eq, h]
      have hall := applyAll_of_fault h
      rw [hfirst]
      constructor
      · exact hall (first :: rest)
      · intro policy
        rw [hall]
  | none =>
      have happly (imprint : Imprint) :
          imprint.apply image = (.ok (reportOn image), imprint.on image) := by rw [apply_eq, h]
      rw [happly]
      constructor
      · refine ⟨_, happly _, ?_⟩
        rw [applyAll, happly]
        simp only [applyAll_on h]
        rfl
      · intro policy
        simp only [applyAll, happly, apply_on h]

end Imprint

end FirmwareHeader.Header
