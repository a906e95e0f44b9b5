import FirmwareHeader.Proofs.Header.Footprint

namespace FirmwareHeader.Header

open SignedLength

def SignedLength.ofBytes (bytes : Array UInt8) : Nat :=
  (bytes[2]?.getD 0).toNat + 256 * (bytes[3]?.getD 0).toNat

def headerStart (raw : Nat) : Nat := (raw + 15) / 16 * 16

/-- The first field, in the order of writing, that `size` bytes are too few for. -/
def firstMissing (start size : Nat) : Nat :=
  if size ≤ start + 0x10 then start + 0x10
  else if size ≤ start + 0x14 then start + 0x14
  else start + 0x60

/-- Everything that keeps bytes from getting a header, in the order in which it is looked for. Each
is told from the bytes alone, whatever else is wrong with them. -/
def defects (bytes : Array UInt8) : List Image.Fault :=
  let raw := SignedLength.ofBytes bytes
  let start := headerStart raw
  (if bytes.size = 0 then [.empty] else []) ++
  (if bytes.size % 4 ≠ 0 then [.misaligned bytes.size] else []) ++
  (if 0xFFF0 < raw then [.lengthOverflow 0x10000] else []) ++
  if bytes.size < start + 0x64 then [.outOfBounds (firstMissing start bytes.size) bytes.size] else []

/-- Bytes just long enough for a header at 16, with length 1 and all flags in word 0. -/
def shortest : Array UInt8 := #[0xFF, 0xFF, 1, 0] ++ Array.replicate 112 0

def shortestImage : Image := ⟨shortest, by decide +kernel, by decide +kernel⟩

theorem SignedLength.ofBytes_bytes (image : Image) :
    SignedLength.ofBytes image.bytes = (ofImage image).toNat := by
  have hpos := image.four_le_size
  have hlt := (image.word 0).toNat_lt
  have h2 := image.byte_word (i := 0) (k := 2) (by omega) (by omega)
  have h3 := image.byte_word (i := 0) (k := 3) (by omega) (by omega)
  rw [SignedLength.ofBytes, ← h2, ← h3, ofImage, toNat_ofLead]
  simp only [Option.getD_some, Word.toNat_byte, Nat.shiftRight_eq_div_pow]
  omega

theorem headerStart_ofImage (image : Image) :
    headerStart (ofImage image).toNat = (aligned image).toNat := (toNat_aligned image).symm

theorem headerStart_ofBytes (image : Image) :
    headerStart (SignedLength.ofBytes image.bytes) = (aligned image).toNat := by
  rw [SignedLength.ofBytes_bytes, headerStart_ofImage]

theorem outside?_index_of_lt {image : Image} (field : Field)
    (h : (aligned image).toNat + field.offset < image.size) :
    image.outside? (field.index (aligned image)) = none := by
  rw [Image.outside?_eq_none_iff, Field.four_mul_index (aligned_mod image)]
  exact h

theorem outside?_index_of_le {image : Image} (field : Field)
    (h : image.size ≤ (aligned image).toNat + field.offset) :
    image.outside? (field.index (aligned image)) =
      some (.outOfBounds ((aligned image).toNat + field.offset) image.size) := by
  have hlt := toNat_ofImage_lt image
  have hal := toNat_aligned image
  have hoffset := field.offset_le
  rw [Image.outside?, Field.four_mul_index (aligned_mod image), if_neg (by omega),
    Nat.min_eq_left]
  simp only [Image.greatestOffset]
  omega

theorem findSome?_outside? (image : Image) (fields : List Field) :
    (fields.findSome? fun field => image.outside? (field.index (aligned image))) =
      (fields.find? fun field => image.size ≤ (aligned image).toNat + field.offset).map
        fun field => .outOfBounds ((aligned image).toNat + field.offset) image.size := by
  induction fields with
  | nil => rfl
  | cons field fields ih =>
      rw [List.findSome?_cons, List.find?_cons]
      by_cases h : image.size ≤ (aligned image).toNat + field.offset
      · rw [outside?_index_of_le field h, decide_eq_true h]
        rfl
      · rw [outside?_index_of_lt field (Nat.lt_of_not_le h), decide_eq_false h]
        exact ih

theorem unplaced?_of_lt {image : Image} (h : image.size < (aligned image).toNat + 0x64) :
    unplaced? image =
      some (.outOfBounds (firstMissing (aligned image).toNat image.size) image.size) := by
  have hmod := image.size_mod
  have hlength := aligned_mod image
  -- the offset before the last in the order of writing is also the greatest
  have h60 : image.size ≤ (aligned image).toNat + 0x60 := by omega
  rw [unplaced?, findSome?_outside?, firstMissing]
  by_cases h10 : image.size ≤ (aligned image).toNat + 0x10
  · simp [Field.offset, h10]
  · by_cases h14 : image.size ≤ (aligned image).toNat + 0x14
    · simp [Field.offset, h10, h14]
    · simp [Field.offset, h10, h14, h60]

theorem fault?_cases {image : Image} {fault : Image.Fault} (h : fault? image = some fault) :
    (greatest < aligned image ∧ fault = .lengthOverflow (aligned image)) ∨
    (¬greatest < aligned image ∧ ∃ offset, fault = .outOfBounds offset image.size) := by
  by_cases hgreat : greatest < aligned image
  · rw [fault?, if_pos hgreat] at h
    exact .inl ⟨hgreat, (Option.some.inj h).symm⟩
  · rw [fault?, if_neg hgreat] at h
    have hfit : image.size < (aligned image).toNat + 0x64 := by
      have hnone := (not_congr (unplaced?_eq_none_iff image)).mp (by simp [h])
      omega
    rw [unplaced?_of_lt hfit] at h
    exact .inr ⟨hgreat, _, (Option.some.inj h).symm⟩

theorem aligned_of_overflow {image : Image} (h : greatest < aligned image) :
    aligned image = 0x10000 := by
  have hgreat := (greatest_lt_aligned_iff image).mp h
  have hlt := toNat_ofImage_lt image
  apply UInt32.toNat.inj
  rw [toNat_aligned]
  simp only [UInt32.reduceToNat]
  omega

theorem fault?_eq (image : Image) : fault? image =
    if 0xFFF0 < (ofImage image).toNat then some (.lengthOverflow 0x10000)
    else if image.size < (aligned image).toNat + 0x64 then
      some (.outOfBounds (firstMissing (aligned image).toNat image.size) image.size)
    else none := by
  rw [fault?]
  by_cases h : greatest < aligned image
  · rw [if_pos h, if_pos ((greatest_lt_aligned_iff image).mp h), aligned_of_overflow h]
  · rw [if_neg h, if_neg ((not_congr (greatest_lt_aligned_iff image)).mp h)]
    by_cases hfit : image.size < (aligned image).toNat + 0x64
    · rw [if_pos hfit, unplaced?_of_lt hfit]
    · rw [if_neg hfit, unplaced?_eq_none_iff]
      omega

theorem head?_defects_bytes (image : Image) : (defects image.bytes).head? = fault? image := by
  have hpos := image.four_le_size
  have hmod := image.size_mod
  have hraw := SignedLength.ofBytes_bytes image
  rw [Image.size] at hpos hmod
  simp only [defects, hraw, headerStart_ofImage]
  rw [fault?_eq, Image.size]
  rw [if_neg (by omega), if_neg (by omega)]
  by_cases hgreat : 0xFFF0 < (ofImage image).toNat
  · rw [if_pos hgreat, if_pos hgreat]
    rfl
  · rw [if_neg hgreat, if_neg hgreat]
    by_cases hfit : image.bytes.size < (aligned image).toNat + 0x64
    · rw [if_pos hfit, if_pos hfit]
      rfl
    · rw [if_neg hfit, if_neg hfit]
      rfl

theorem ofBytes_of_defects_nil {bytes : Array UInt8} (h : defects bytes = []) :
    ∃ image, Image.ofBytes bytes = .ok image ∧ image.bytes = bytes ∧ fault? image = none := by
  have hdefects := h
  simp only [defects, List.append_eq_nil_iff, ite_eq_right_iff, List.cons_ne_self, imp_false] at h
  obtain ⟨⟨⟨hpos, hmod⟩, _⟩, _⟩ := h
  have hmod := Decidable.not_not.mp hmod
  refine ⟨⟨bytes, Nat.pos_of_ne_zero hpos, hmod⟩, ?_, rfl, ?_⟩
  · rw [Image.ofBytes, dif_neg hpos, dif_pos hmod]
  · rw [← head?_defects_bytes, hdefects]
    rfl

namespace Imprint

theorem apply_shortest (imprint : Imprint) : imprint.apply shortestImage =
    (.ok ⟨1, 16, true, some 116⟩, imprint.on shortestImage) := by
  have hfault : fault? shortestImage = none := by decide +kernel
  have hreport : reportOn shortestImage = ⟨1, 16, true, some 116⟩ := by decide +kernel
  simp only [apply_eq, hfault, hreport]

def patch (imprint : Imprint) (bytes : Array UInt8) : Except Image.Fault (Image × Report) := do
  match imprint.apply (← Image.ofBytes bytes) with
  | (.ok report, final) => .ok (final, report)
  | (.error fault, _) => .error fault

theorem patch_eq_ok_iff {imprint : Imprint} {bytes : Array UInt8} {final : Image}
    {report : Report} : imprint.patch bytes = .ok (final, report) ↔
      ∃ image, Image.ofBytes bytes = .ok image ∧ imprint.apply image = (.ok report, final) := by
  constructor
  · intro h
    rw [patch] at h
    cases hof : Image.ofBytes bytes with
    | error fault => simp [hof, bind, Except.bind] at h
    | ok image =>
        refine ⟨image, rfl, ?_⟩
        simp only [hof, bind, Except.bind] at h
        split at h
        · next happly =>
          rw [Except.ok.injEq, Prod.mk.injEq] at h
          rw [happly, h.1, h.2]
        · cases h
  · rintro ⟨image, hof, happly⟩
    simp only [patch, hof, bind, Except.bind, happly]

variable (imprint : Imprint)

theorem patch_of_image (image : Image) : imprint.patch image.bytes =
    match fault? image with
    | some fault => .error fault
    | none => .ok (imprint.on image, reportOn image) := by
  simp only [patch, Image.ofBytes_bytes, bind, Except.bind, apply_eq]
  cases fault? image with
  | some fault => rfl
  | none => rfl

theorem patch_of_defect {bytes : Array UInt8} {fault : Image.Fault}
    (h : (defects bytes).head? = some fault) : imprint.patch bytes = .error fault := by
  by_cases hpos : bytes.size = 0
  · have hfault : Image.Fault.empty = fault := by simpa [defects, hpos] using h
    simp only [patch, Image.ofBytes, hpos, ↓reduceDIte, bind, Except.bind, hfault]
  · by_cases hmod : bytes.size % 4 = 0
    · let image : Image := ⟨bytes, Nat.pos_of_ne_zero hpos, hmod⟩
      have hfault : fault? image = some fault := (head?_defects_bytes image).symm.trans h
      exact (imprint.patch_of_image image).trans (by rw [hfault])
    · have hfault : Image.Fault.misaligned bytes.size = fault := by
        simpa [defects, hpos, hmod] using h
      simp only [patch, Image.ofBytes, hpos, hmod, ↓reduceDIte, bind, Except.bind, hfault]

theorem patch_of_defects_nil {bytes : Array UInt8} (h : defects bytes = []) :
    ∃ image, Image.ofBytes bytes = .ok image ∧ image.bytes = bytes ∧ fault? image = none ∧
      imprint.patch bytes = .ok (imprint.on image, reportOn image) := by
  obtain ⟨image, hof, rfl, hfault⟩ := ofBytes_of_defects_nil h
  refine ⟨image, hof, rfl, hfault, ?_⟩
  rw [patch_of_image, hfault]

theorem head?_defects_of_patch {bytes : Array UInt8} {fault : Image.Fault}
    (h : imprint.patch bytes = .error fault) : (defects bytes).head? = some fault := by
  cases hdefects : (defects bytes).head? with
  | none =>
      obtain ⟨_, _, _, _, hpatch⟩ := imprint.patch_of_defects_nil (List.head?_eq_none_iff.mp hdefects)
      simp [hpatch] at h
  | some first =>
      rw [imprint.patch_of_defect hdefects] at h
      cases h
      rfl

theorem patch_cases {bytes : Array UInt8} {final : Image} {report : Report}
    (h : imprint.patch bytes = .ok (final, report)) :
    defects bytes = [] ∧ ∃ image, Image.ofBytes bytes = .ok image ∧ image.bytes = bytes ∧
      fault? image = none ∧ final = imprint.on image ∧ report = reportOn image := by
  cases hdefects : (defects bytes).head? with
  | none =>
      have hnil := List.head?_eq_none_iff.mp hdefects
      obtain ⟨image, hof, hbytes, hfault, hpatch⟩ := imprint.patch_of_defects_nil hnil
      rw [hpatch, Except.ok.injEq, Prod.mk.injEq] at h
      exact ⟨hnil, image, hof, hbytes, hfault, h.1.symm, h.2.symm⟩
  | some first => simp [imprint.patch_of_defect hdefects] at h

theorem size_of_patch {bytes : Array UInt8} {final : Image} {report : Report}
    (h : imprint.patch bytes = .ok (final, report)) : final.bytes.size = bytes.size := by
  obtain ⟨_, image, _, hbytes, _, hfinal, _⟩ := imprint.patch_cases h
  rw [hfinal, ← hbytes]
  exact imprint.size_on image

end Imprint

end FirmwareHeader.Header
