import FirmwareHeader.Proofs.Header.Writing
import FirmwareHeader.Proofs.Machine.Arithmetic

namespace FirmwareHeader.Machine

open Header

structure Range where
  start : UInt64
  stop : UInt64
deriving DecidableEq

/-- The place of word `i`. Only its first byte is compared with the end of the memory. -/
def wordRange (i : UInt64) : Work Range := do
  let size := UInt64.ofNat (← get).size
  match (product? i 4).filter (· < size) with
  | some start => return ⟨start, ← sum start 4⟩
  | none => throw (.fault (.outOfBounds (saturatedProduct i 4).toNat size.toNat))

def slice (range : Range) : Work (Array UInt8) := do
  let bytes ← get
  if range.start ≤ range.stop ∧ range.stop.toNat ≤ bytes.size then
    return bytes.extract range.start.toNat range.stop.toNat
  else throw (.trap .outOfRange)

def load (i : UInt64) : Work UInt32 := do
  let part ← slice (← wordRange i)
  if h : 4 ≤ part.size then return Word.ofBytes part[0] part[1] part[2] part[3]
  else throw (.trap .outOfRange)

def overwrite (start : Nat) (w : UInt32) (bytes : Array UInt8) : Array UInt8 := bytes
  |>.setIfInBounds start (Word.byte w 0)
  |>.setIfInBounds (start + 1) (Word.byte w 1)
  |>.setIfInBounds (start + 2) (Word.byte w 2)
  |>.setIfInBounds (start + 3) (Word.byte w 3)

def store (i : UInt64) (w : UInt32) : Work Unit := do
  let range ← wordRange i
  let part ← slice range
  if 4 ≤ part.size then modify (overwrite range.start.toNat w)
  else throw (.trap .outOfRange)

def check (i : UInt64) : Work Unit := do
  let _ ← wordRange i

def rangeOf (i : Nat) : Range := ⟨UInt64.ofNat (4 * i), UInt64.ofNat (4 * i + 4)⟩

theorem toNat_saturatedProduct (i : UInt64) :
    (saturatedProduct i 4).toNat = min (4 * i.toNat) Image.greatestOffset := by
  have hfour : (4 : UInt64).toNat = 4 := rfl
  rw [saturatedProduct, product?, hfour, Image.greatestOffset]
  by_cases h : i.toNat * 4 < 2 ^ 64
  · rw [if_pos h, Option.getD_some, UInt64.toNat_mul, hfour, Nat.mod_eq_of_lt h]
    omega
  · rw [if_neg h, Option.getD_none, UInt64.toNat_ofNat']
    omega

section

variable {bytes : Array UInt8} (hsize : bytes.size < 2 ^ 63) (i : UInt64)

include hsize

theorem filter_product? : (product? i 4).filter (· < UInt64.ofNat bytes.size) =
    if 4 * i.toNat < bytes.size then some (UInt64.ofNat (4 * i.toNat)) else none := by
  have hfour : (4 : UInt64).toNat = 4 := rfl
  rw [product?, hfour]
  by_cases hfit : i.toNat * 4 < 2 ^ 64
  · have hmul : i * 4 = UInt64.ofNat (4 * i.toNat) := by
      apply UInt64.toNat.inj
      rw [UInt64.toNat_mul, UInt64.toNat_ofNat', hfour, Nat.mul_comm]
    have hlt : UInt64.ofNat (4 * i.toNat) < UInt64.ofNat bytes.size ↔ 4 * i.toNat < bytes.size := by
      rw [UInt64.lt_iff_toNat_lt, UInt64.toNat_ofNat', UInt64.toNat_ofNat',
        Nat.mod_eq_of_lt (by omega), Nat.mod_eq_of_lt (by omega)]
    simp only [if_pos hfit, hmul, Option.filter_some, hlt, decide_eq_true_eq]
  · rw [if_neg hfit, if_neg (by omega)]
    rfl

theorem toNat_rangeOf {i : Nat} (h : 4 * i < bytes.size) :
    (rangeOf i).start.toNat = 4 * i ∧ (rangeOf i).stop.toNat = 4 * i + 4 := by
  simp only [rangeOf, UInt64.toNat_ofNat']
  exact ⟨Nat.mod_eq_of_lt (by omega), Nat.mod_eq_of_lt (by omega)⟩

theorem sum_rangeOf {i : Nat} (h : 4 * i < bytes.size) :
    sum (rangeOf i).start 4 = pure (rangeOf i).stop := by
  have hstop : (rangeOf i).start + 4 = (rangeOf i).stop := by simp [rangeOf, UInt64.ofNat_add]
  rw [← hstop]
  apply within_of_lt
  rw [(toNat_rangeOf hsize h).1]
  simp only [UInt64.reduceToNat]
  omega

theorem wordRange_eq : wordRange i bytes =
    if 4 * i.toNat < bytes.size then .ok (rangeOf i.toNat) bytes
    else .error (.fault (.outOfBounds (min (4 * i.toNat) Image.greatestOffset) bytes.size))
      bytes := by
  have hget : (get : Work (Array UInt8)) bytes = .ok bytes bytes := rfl
  refine (Editing.bind_of_ok hget).trans ?_
  rw [filter_product? hsize]
  by_cases h : 4 * i.toNat < bytes.size
  · rw [if_pos h, if_pos h]
    change (sum (rangeOf i.toNat).start 4 >>= fun stop =>
      pure (Range.mk (rangeOf i.toNat).start stop)) bytes = _
    rw [sum_rangeOf hsize h]
    rfl
  · have hmod : bytes.size % 2 ^ 64 = bytes.size := Nat.mod_eq_of_lt (by omega)
    rw [if_neg h, if_neg h, toNat_saturatedProduct, UInt64.toNat_ofNat', hmod]
    rfl

theorem slice_rangeOf {i : Nat} (h : 4 * i < bytes.size) : slice (rangeOf i) bytes =
    if 4 * i + 4 ≤ bytes.size then .ok (bytes.extract (4 * i) (4 * i + 4)) bytes
    else .error (.trap .outOfRange) bytes := by
  obtain ⟨hstart, hstop⟩ := toNat_rangeOf hsize h
  have hle : (rangeOf i).start ≤ (rangeOf i).stop := by
    rw [UInt64.le_iff_toNat_le, hstart, hstop]
    omega
  have hget : (get : Work (Array UInt8)) bytes = .ok bytes bytes := rfl
  refine (Editing.bind_of_ok hget).trans ?_
  simp only [hle, hstart, hstop, true_and]
  by_cases hfits : 4 * i + 4 ≤ bytes.size
  · rw [if_pos hfits, if_pos hfits]
    rfl
  · rw [if_neg hfits, if_neg hfits]
    rfl

/-- The test of the first byte is not enough by itself: it lets a word pass that the end of the
memory cuts in two. -/
theorem load_of_cut (h : 4 * i.toNat < bytes.size) (hcut : bytes.size < 4 * i.toNat + 4) :
    load i bytes = .error (.trap .outOfRange) bytes := by
  have hrange := wordRange_eq hsize i
  have hslice := slice_rangeOf hsize h
  rw [if_pos h] at hrange
  rw [if_neg (by omega)] at hslice
  exact (Editing.bind_of_ok hrange).trans (Editing.bind_of_error hslice)

/-- It is enough where the memory has no part of a word. -/
theorem wordRange_inside {range : Range} {next : Array UInt8} (hmod : bytes.size % 4 = 0)
    (hrange : wordRange i bytes = .ok range next) :
    range.stop.toNat = range.start.toNat + 4 ∧ range.stop.toNat ≤ bytes.size := by
  rw [wordRange_eq hsize] at hrange
  by_cases h : 4 * i.toNat < bytes.size
  · obtain ⟨hstart, hstop⟩ := toNat_rangeOf hsize h
    rw [if_pos h] at hrange
    cases hrange
    rw [hstart, hstop]
    exact ⟨rfl, by omega⟩
  · rw [if_neg h] at hrange
    cases hrange

end

theorem four_le_size_extract {bytes : Array UInt8} {n : Nat} (h : n + 4 ≤ bytes.size) :
    4 ≤ (bytes.extract n (n + 4)).size := by
  rw [Array.size_extract]
  omega

section

variable (image : Image) (hsize : image.size < 2 ^ 63) (i : UInt64)

include hsize

theorem wordRange_image : wordRange i image.bytes =
    match image.outside? i.toNat with
    | none => .ok (rangeOf i.toNat) image.bytes
    | some fault => .error (.fault fault) image.bytes := by
  rw [wordRange_eq hsize, Image.outside?, Image.size]
  by_cases h : 4 * i.toNat < image.bytes.size
  · rw [if_pos h, if_pos h]
  · rw [if_neg h, if_neg h]

theorem bind_wordRange {α : Type} (f : Range → Work α) : (wordRange i >>= f) image.bytes =
    match image.outside? i.toNat with
    | none => f (rangeOf i.toNat) image.bytes
    | some fault => .error (.fault fault) image.bytes := by
  have hrange := wordRange_image image hsize i
  cases hout : image.outside? i.toNat with
  | none =>
      rw [hout] at hrange
      exact Editing.bind_of_ok hrange
  | some fault =>
      rw [hout] at hrange
      exact Editing.bind_of_error hrange

theorem bind_slice {α : Type} (f : Array UInt8 → Work α) (h : 4 * i.toNat < image.size) :
    (slice (rangeOf i.toNat) >>= f) image.bytes =
      f (image.bytes.extract (4 * i.toNat) (4 * i.toNat + 4)) image.bytes := by
  have hslice := slice_rangeOf hsize h
  rw [if_pos (image.word_fits h)] at hslice
  exact Editing.bind_of_ok hslice

theorem check_image : check i image.bytes =
    match image.outside? i.toNat with
    | none => .ok () image.bytes
    | some fault => .error (.fault fault) image.bytes := bind_wordRange image hsize i _

theorem load_image : load i image.bytes =
    match image.outside? i.toNat with
    | none => .ok (image.word i.toNat) image.bytes
    | some fault => .error (.fault fault) image.bytes := by
  refine (bind_wordRange image hsize i _).trans ?_
  cases hout : image.outside? i.toNat with
  | some fault => rfl
  | none =>
      have hin := (image.outside?_eq_none_iff i.toNat).mp hout
      have hpart := four_le_size_extract (image.word_fits hin)
      refine (bind_slice image hsize i _ hin).trans ?_
      rw [dif_pos hpart]
      simp only [Array.getElem_extract, Image.word, dif_pos hin]
      rfl

theorem store_image (w : UInt32) : store i w image.bytes =
    match image.outside? i.toNat with
    | none => .ok () (image.put i.toNat w).bytes
    | some fault => .error (.fault fault) image.bytes := by
  refine (bind_wordRange image hsize i _).trans ?_
  cases hout : image.outside? i.toNat with
  | some fault => rfl
  | none =>
      have hin := (image.outside?_eq_none_iff i.toNat).mp hout
      have hpart := four_le_size_extract (image.word_fits hin)
      refine (bind_slice image hsize i _ hin).trans ?_
      rw [if_pos hpart, (toNat_rangeOf hsize hin).1, Image.put, dif_pos hin]
      rfl

end

end FirmwareHeader.Machine
