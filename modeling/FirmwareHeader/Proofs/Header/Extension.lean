import FirmwareHeader.Proofs.Header.Outcome

namespace FirmwareHeader

namespace Image

theorem exists_append (image : Image) {tail : Array UInt8} (h : tail.size % 4 = 0) :
    ∃ longer : Image, longer.bytes = image.bytes ++ tail := by
  have hpos := image.size_pos
  have hmod := image.size_mod_four
  refine ⟨⟨image.bytes ++ tail, ?_, ?_⟩, rfl⟩
  · rw [Array.size_append]
    omega
  · rw [Array.size_append]
    omega

theorem exists_extract (image : Image) {n : Nat} (hpos : 0 < n) (hmod : n % 4 = 0) :
    ∃ start : Image, start.bytes = image.bytes.extract 0 n ∧ start.size = min n image.size ∧
      image.bytes = start.bytes ++ image.bytes.extract n image.bytes.size := by
  have hsize_pos := image.size_pos
  have hsize_mod := image.size_mod_four
  have hsize : (image.bytes.extract 0 n).size = min n image.bytes.size := by simp
  refine ⟨⟨image.bytes.extract 0 n, ?_, ?_⟩, rfl, hsize, ?_⟩
  · omega
  · omega
  · have hle : image.bytes.size ≤ max n image.bytes.size := Nat.le_max_right _ _
    rw [Array.extract_append_extract, Nat.zero_min, Array.extract_eq_self_of_le hle]

section

variable {image longer : Image} {tail : Array UInt8} (h : longer.bytes = image.bytes ++ tail)

include h

theorem size_le_of_append : image.size ≤ longer.size := by
  simp only [size, h, Array.size_append]
  omega

theorem extract_of_append {n : Nat} (hn : image.size = min n longer.size) :
    longer.bytes.extract 0 n = image.bytes := by
  have hlonger : longer.bytes.size = image.bytes.size + tail.size := by rw [h, Array.size_append]
  rw [size, size, hlonger] at hn
  have hnone : tail.extract (0 - image.bytes.size) (n - image.bytes.size) = #[] := by
    apply Array.eq_empty_of_size_eq_zero
    rw [Array.size_extract]
    omega
  rw [h, Array.extract_append, Array.extract_eq_self_of_le (by omega), hnone, Array.append_empty]

theorem word_of_append {i : Nat} (hi : 4 * i < image.size) : longer.word i = image.word i := by
  have hle := size_le_of_append h
  apply Word.byte_ext
  intro k hk
  apply Option.some.inj
  have hfits := image.word_fits hi
  rw [byte_word _ (by omega) hk, byte_word _ hi hk, h, Array.getElem?_append_left (by omega)]

theorem put_of_append {i : Nat} (hi : 4 * i < image.size) (w : UInt32) :
    (longer.put i w).bytes = (image.put i w).bytes ++ tail := by
  have hle := size_le_of_append h
  have hsize : (image.put i w).bytes.size = image.bytes.size := image.size_put i w
  have hfits := image.word_fits hi
  apply Array.ext_getElem?
  intro k
  rw [getElem?_put, Array.getElem?_append, getElem?_put, hsize, h, Array.getElem?_append]
  by_cases hk : k < image.bytes.size
  · rw [if_pos hk, if_pos hk]
    by_cases hin : 4 * i ≤ k ∧ k < 4 * i + 4
    · rw [if_pos ⟨by omega, hin⟩, if_pos ⟨hi, hin⟩]
    · rw [if_neg fun hp => hin hp.2, if_neg fun hp => hin hp.2]
  · rw [if_neg hk, if_neg hk, if_neg (by omega)]

end

end Image

namespace Header

open SignedLength

def Report.resized (report : Report) (size : Nat) : Report :=
  { report with unusualSize := if size = nominalSize then none else some size }

section

variable {image longer : Image}

theorem reportOn_of_word_zero (hzero : longer.word 0 = image.word 0) :
    reportOn longer = (reportOn image).resized longer.size := by
  simp only [reportOn, Report.resized, aligned_congr hzero, ofImage_congr hzero]

theorem fault?_eq_none_of_word_zero (hzero : longer.word 0 = image.word 0)
    (hfault : fault? image = none) :
    fault? longer = none ↔ (aligned image).toNat + 0x64 ≤ longer.size := by
  have hfits := (fault?_eq_none_iff image).mp hfault
  rw [fault?_eq_none_iff, ofImage_congr hzero, aligned_congr hzero]
  exact ⟨And.right, fun hsize => ⟨hfits.1, hsize⟩⟩

variable {tail : Array UInt8} (h : longer.bytes = image.bytes ++ tail)

include h

theorem word_zero_of_append : longer.word 0 = image.word 0 :=
  Image.word_of_append h image.size_pos

theorem aligned_of_append : aligned longer = aligned image :=
  aligned_congr (word_zero_of_append h)

theorem Fields.read_of_append (hplaced : unplaced? image = none) :
    Fields.read longer = Fields.read image := by
  have hplaced' : unplaced? longer = none := by
    have hle := Image.size_le_of_append h
    rw [unplaced?_eq_none_iff] at hplaced ⊢
    rw [aligned_of_append h]
    omega
  have hin := index_inside hplaced
  rw [Fields.read_of_placed hplaced, Fields.read_of_placed hplaced', aligned_of_append h]
  simp only [Image.word_of_append h (hin _)]

namespace Imprint

variable (imprint : Imprint)

theorem on_of_append (hplaced : unplaced? image = none) :
    (imprint.on longer).bytes = (imprint.on image).bytes ++ tail := by
  have hpos := image.size_pos
  have hin := index_inside hplaced
  have hlead := imprint.lead_congr (word_zero_of_append h)
  simp only [on_eq, hlead, aligned_of_append h]
  refine Image.put_of_append (Image.put_of_append (Image.put_of_append (Image.put_of_append
    (Image.put_of_append h hpos _) ?_ _) ?_ _) ?_ _) ?_ _
  all_goals
    simp only [Image.size_put]
    exact hin _

end Imprint

end

namespace Imprint

theorem succeeds_iff (imprint : Imprint) (image : Image) :
    (∃ report, (imprint.apply image).1 = .ok report) ↔ fault? image = none := by
  rw [apply_eq]
  cases fault? image with
  | some fault => simp
  | none => simp

variable (imprint : Imprint) {image : Image} (hfault : fault? image = none)

include hfault

theorem patch_append {tail : Array UInt8} (htail : tail.size % 4 = 0) :
    ∃ left, imprint.patch (image.bytes ++ tail) =
        .ok (left, (reportOn image).resized (image.size + tail.size)) ∧
      left.bytes = (imprint.on image).bytes ++ tail ∧
      Fields.read left = Fields.read (imprint.on image) := by
  obtain ⟨longer, hlonger⟩ := image.exists_append htail
  have hsize : longer.size = image.size + tail.size := by
    rw [Image.size, hlonger, Array.size_append, Image.size]
  have hzero := word_zero_of_append hlonger
  have hfits := ((fault?_eq_none_iff image).mp hfault).2
  have hfault' := (fault?_eq_none_of_word_zero hzero hfault).mpr (by omega)
  have hon := imprint.on_of_append hlonger (unplaced?_of_fault? hfault)
  have hplaced := unplaced?_of_fault? (fault?_on hfault imprint)
  refine ⟨imprint.on longer, ?_, hon, Fields.read_of_append hon hplaced⟩
  rw [← hlonger, patch_of_image, hfault', ← hsize, reportOn_of_word_zero hzero]

theorem patch_extract {n : Nat} (hmod : n % 4 = 0) (hn : (aligned image).toNat + 0x64 ≤ n) :
    ∃ left, imprint.patch (image.bytes.extract 0 n) =
        .ok (left, (reportOn image).resized (min n image.size)) ∧
      left.bytes = (imprint.on image).bytes.extract 0 n := by
  obtain ⟨start, hstart, hsize, happend⟩ := image.exists_extract (by omega) hmod
  have hzero := (word_zero_of_append happend).symm
  have hfits := ((fault?_eq_none_iff image).mp hfault).2
  have hfault' := (fault?_eq_none_of_word_zero hzero hfault).mpr (by omega)
  have hon := imprint.on_of_append happend (unplaced?_of_fault? hfault')
  refine ⟨imprint.on start, ?_, ?_⟩
  · rw [← hstart, patch_of_image, hfault', ← hsize, reportOn_of_word_zero hzero]
  · rw [Image.extract_of_append hon]
    rw [size_on, size_on, hsize]

theorem succeeds_of_word_zero (other : Image) (hzero : other.word 0 = image.word 0) :
    (∃ report, (imprint.apply other).1 = .ok report) ↔
      (aligned image).toNat + 0x64 ≤ other.size := by
  rw [succeeds_iff, fault?_eq_none_of_word_zero hzero hfault]

theorem isLeast_size : IsLeast {n | ∃ other : Image, other.size = n ∧
      other.word 0 = image.word 0 ∧ ∃ report, (imprint.apply other).1 = .ok report}
    ((aligned image).toNat + 0x64) := by
  have hlength := aligned_mod image
  have hfits := ((fault?_eq_none_iff image).mp hfault).2
  constructor
  · obtain ⟨start, _, hsize, happend⟩ :=
      image.exists_extract (n := (aligned image).toNat + 0x64) (by omega) (by omega)
    have hzero := (word_zero_of_append happend).symm
    refine ⟨start, by omega, hzero, ?_⟩
    rw [imprint.succeeds_of_word_zero hfault start hzero]
    omega
  · rintro n ⟨other, rfl, hzero, hreport⟩
    exact (imprint.succeeds_of_word_zero hfault other hzero).mp hreport

omit hfault

/-- What stands behind the header, and how much of it there is, bears on nothing but the size that
is reported. The header fits into all images that are long enough for it and no others. -/
theorem apply_resized (imprint : Imprint) {image final : Image} {report : Report}
    (h : imprint.apply image = (.ok report, final)) :
    (∀ tail : Array UInt8, tail.size % 4 = 0 → ∃ left,
      imprint.patch (image.bytes ++ tail) =
        .ok (left, report.resized (image.size + tail.size)) ∧
      left.bytes = final.bytes ++ tail ∧
      ∃ fields, Fields.read final = .ok fields ∧ Fields.read left = .ok fields) ∧
    (∀ n, n % 4 = 0 → report.signedLength.toNat + 0x64 ≤ n → ∃ left,
      imprint.patch (image.bytes.extract 0 n) = .ok (left, report.resized (min n image.size)) ∧
      left.bytes = final.bytes.extract 0 n) ∧
    ∀ imprint' : Imprint,
      (∀ other : Image, other.read 0 = image.read 0 →
        ((∃ report', (imprint'.apply other).1 = .ok report') ↔
          report.signedLength.toNat + 0x64 ≤ other.size)) ∧
      IsLeast {n | ∃ other : Image, other.size = n ∧ other.read 0 = image.read 0 ∧
        ∃ report', (imprint'.apply other).1 = .ok report'} (report.signedLength.toNat + 0x64) := by
  obtain ⟨hfault, hreport, hfinal⟩ := imprint.apply_cases h
  have hread (other : Image) : other.read 0 = image.read 0 ↔ other.word 0 = image.word 0 := by
    rw [Image.read_of_inside _ other.outside?_zero, Image.read_of_inside _ image.outside?_zero,
      Except.ok.injEq]
  rw [hreport, hfinal]
  refine ⟨fun tail htail => ?_, fun n hmod hn => imprint.patch_extract hfault hmod hn,
    fun imprint' => ⟨fun other hother => ?_, ?_⟩⟩
  · obtain ⟨left, hpatch, hleft, hfields⟩ := imprint.patch_append hfault htail
    rw [imprint.read_on hfault] at hfields ⊢
    exact ⟨left, hpatch, hleft, _, rfl, hfields⟩
  · exact imprint'.succeeds_of_word_zero hfault other ((hread other).mp hother)
  · have hleast := imprint'.isLeast_size hfault
    simp only [← hread] at hleast
    exact hleast

theorem apply_resized_shortest :
    (∃ final left, (⟨1, 2, .keep⟩ : Imprint).apply shortestImage =
        (.ok ⟨1, 16, true, some 116⟩, final) ∧
      (⟨1, 2, .keep⟩ : Imprint).patch (shortestImage.bytes ++ #[3, 4, 5, 6]) =
        .ok (left, ⟨1, 16, true, some 120⟩) ∧
      left.bytes = final.bytes ++ #[3, 4, 5, 6]) ∧
    IsLeast {n | ∃ other : Image, other.size = n ∧ other.read 0 = shortestImage.read 0 ∧
      ∃ report, ((⟨1, 2, .keep⟩ : Imprint).apply other).1 = .ok report} 116 := by
  have happly := (⟨1, 2, .keep⟩ : Imprint).apply_shortest
  obtain ⟨hlonger, _, hleast⟩ := apply_resized _ happly
  obtain ⟨left, hpatch, hleft, _⟩ := hlonger #[3, 4, 5, 6] rfl
  have hresized : (⟨1, 16, true, some 116⟩ : Report).resized
      (shortestImage.size + (#[3, 4, 5, 6] : Array UInt8).size) = ⟨1, 16, true, some 120⟩ := by
    decide +kernel
  rw [hresized] at hpatch
  exact ⟨⟨_, left, happly, hpatch, hleft⟩, (hleast _).2⟩

end Imprint

end Header

end FirmwareHeader
