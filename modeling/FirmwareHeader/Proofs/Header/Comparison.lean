import FirmwareHeader.Proofs.Header.Outcome
import Mathlib.Tactic.SplitIfs

namespace FirmwareHeader.Header

open SignedLength

def firstUnread (start size : Nat) : Nat :=
  if size ≤ start + 0x10 then start + 0x10
  else if size ≤ start + 0x14 then start + 0x14
  else if size ≤ start + 0x4C then start + 0x4C
  else start + 0x60

/-- What comes of writing a header beside what comes of reading the one that is there, `raw` being
the length in word 0 of `size` bytes and `start` the place behind which the header begins. -/
structure Comparison (raw start size : Nat) (written : Except Image.Fault Report)
    (found : Except Image.Fault Fields) : Prop where
  found_iff : (∃ fields, found = .ok fields) ↔ start + 0x64 ≤ size
  written_iff : raw ≤ 0xFFF0 → ((∃ report, written = .ok report) ↔ ∃ fields, found = .ok fields)
  outOfBounds : raw ≤ 0xFFF0 → size < start + 0x64 → ∃ unwritten unread,
    written = .error (.outOfBounds unwritten size) ∧ found = .error (.outOfBounds unread size) ∧
      if start + 0x18 ≤ size ∧ size ≤ start + 0x4C then
        unwritten = start + 0x60 ∧ unread = start + 0x4C
      else unwritten = unread
  overflow : 0xFFF0 < raw → written = .error (.lengthOverflow 0x10000) ∧
    ((∃ fields, found = .ok fields) ↔ 0x10064 ≤ size) ∧
    (size < 0x10064 → ∃ unread, found = .error (.outOfBounds unread size))
  never_overflow : ∀ aligned, found ≠ .error (.lengthOverflow aligned)

theorem unread?_of_lt {image : Image} (h : image.size < (aligned image).toNat + 0x64) :
    unread? image =
      some (.outOfBounds (firstUnread (aligned image).toNat image.size) image.size) := by
  have hmod := image.size_mod
  have hlength := aligned_mod image
  have h60 : image.size ≤ (aligned image).toNat + 0x60 := by omega
  rw [unread?, findSome?_outside?, firstUnread]
  by_cases h10 : image.size ≤ (aligned image).toNat + 0x10
  · simp [Field.offset, h10]
  · by_cases h14 : image.size ≤ (aligned image).toNat + 0x14
    · simp [Field.offset, h10, h14]
    · by_cases h4C : image.size ≤ (aligned image).toNat + 0x4C
      · simp [Field.offset, h10, h14, h4C]
      · simp [Field.offset, h10, h14, h4C, h60]

structure Finding (start size : Nat) (found : Except Image.Fault Fields) : Prop where
  of_le : start + 0x64 ≤ size → ∃ fields, found = .ok fields
  of_lt : size < start + 0x64 → found = .error (.outOfBounds (firstUnread start size) size)

theorem Fields.finding_read (image : Image) :
    Finding (aligned image).toNat image.size (Fields.read image) where
  of_le h := ⟨_, Fields.read_of_placed ((unplaced?_eq_none_iff image).mpr h)⟩
  of_lt h := by rw [Fields.read_eq, unread?_of_lt h]

theorem Finding.exists_ok_iff {start size : Nat} {found : Except Image.Fault Fields}
    (h : Finding start size found) : (∃ fields, found = .ok fields) ↔ start + 0x64 ≤ size := by
  refine ⟨fun ⟨fields, hok⟩ => Nat.le_of_not_lt fun hlt => ?_, h.of_le⟩
  rw [h.of_lt hlt] at hok
  cases hok

theorem firstMissing_firstUnread {start size : Nat} (hstart : start % 4 = 0)
    (hsize : size % 4 = 0) :
    if start + 0x18 ≤ size ∧ size ≤ start + 0x4C then
      firstMissing start size = start + 0x60 ∧ firstUnread start size = start + 0x4C
    else firstMissing start size = firstUnread start size := by
  rw [firstMissing, firstUnread]
  split_ifs <;> omega

theorem Finding.comparison {raw size : Nat} {found : Except Image.Fault Fields}
    (h : Finding (headerStart raw) size found) (hraw : raw < 65536) (hsize : size % 4 = 0) :
    Comparison raw (headerStart raw) size (outcome raw size) found where
  found_iff := h.exists_ok_iff
  written_iff hle := ((verdict_outcome hsize).succeeds_iff hle).trans h.exists_ok_iff.symm
  outOfBounds hle hlt := by
    refine ⟨_, _, ?_, h.of_lt hlt, firstMissing_firstUnread (by rw [headerStart]; omega) hsize⟩
    rw [outcome, if_neg (Nat.not_lt.mpr hle), if_pos hlt]
  overflow hgt := by
    have hstart : headerStart raw = 0x10000 := by
      rw [headerStart]
      omega
    rw [hstart] at h
    exact ⟨(verdict_outcome hsize).overflow hgt, h.exists_ok_iff, fun hlt => ⟨_, h.of_lt hlt⟩⟩
  never_overflow aligned hoverflow := by
    by_cases hlt : size < headerStart raw + 0x64
    · rw [h.of_lt hlt] at hoverflow
      cases hoverflow
    · obtain ⟨fields, hok⟩ := h.of_le (Nat.le_of_not_lt hlt)
      rw [hok] at hoverflow
      cases hoverflow

/-- A header can be written just where one can be read, unless the length is too great for its
field. Where neither can be done the two name the same word, unless one of the last two is the first
that is missing: these are written and read in different orders. -/
theorem compared_apply (image : Image) : ∃ lead start, image.read 0 = .ok lead ∧
    IsLeast {m | 16 ∣ m ∧ lead.toNat / 65536 ≤ m} start ∧
    ∀ imprint : Imprint, Comparison (lead.toNat / 65536) start image.size (imprint.apply image).1
      (Fields.read image) := by
  obtain ⟨lead, hread, hlead⟩ := toNat_ofImage image
  refine ⟨lead, (aligned image).toNat, hread, ?_, fun imprint => ?_⟩
  · rw [hlead]
    exact isLeast_aligned image
  · have hfinding := Fields.finding_read image
    rw [← headerStart_ofImage] at hfinding ⊢
    rw [hlead, Imprint.apply_fst]
    exact hfinding.comparison (toNat_ofImage_lt image) image.size_mod

end FirmwareHeader.Header
