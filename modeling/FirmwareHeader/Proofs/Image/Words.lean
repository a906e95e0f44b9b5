import FirmwareHeader.Image.Basic

namespace FirmwareHeader

namespace Word

theorem byte_ext {v w : UInt32} (h : ∀ k, k < 4 → byte v k = byte w k) : v = w := by
  rw [← ofBytes_byte v, ← ofBytes_byte w]
  simp only [h 0 (by omega), h 1 (by omega), h 2 (by omega), h 3 (by omega)]

end Word

namespace Image

theorem ofBytes_eq_ok {bytes : Array UInt8} {image : Image} (h : ofBytes bytes = .ok image) :
    image.bytes = bytes := by
  rw [ofBytes] at h
  split at h
  · cases h
  · split at h
    · cases h
      rfl
    · cases h

theorem ofBytes_eq_error {bytes : Array UInt8} {fault : Fault}
    (h : ofBytes bytes = .error fault) : fault = .empty ∨ fault = .misaligned bytes.size := by
  rw [ofBytes] at h
  split at h
  · cases h
    exact .inl rfl
  · split at h
    · cases h
    · cases h
      exact .inr rfl

variable (image : Image)

theorem word_fits {i : Nat} (h : 4 * i < image.size) : 4 * i + 4 ≤ image.bytes.size := by
  have hmod := image.size_mod_four
  rw [size] at h
  omega

def place (i : Nat) (h : 4 * i < image.size) : image.Span := ⟨4 * i, image.word_fits h⟩

/-- Word `i`. Behind the end of an image all words are zero. -/
def word (i : Nat) : UInt32 := if h : 4 * i < image.size then image.load (image.place i h) else 0

/-- An image with another word `i`. Nothing is put behind its end. -/
def put (i : Nat) (w : UInt32) : Image :=
  if h : 4 * i < image.size then image.store (image.place i h) w else image

def outside? (i : Nat) : Option Fault :=
  if 4 * i < image.size then none else some (.outOfBounds (min (4 * i) greatestOffset) image.size)

theorem outside?_eq_none_iff (i : Nat) : image.outside? i = none ↔ 4 * i < image.size := by
  simp [outside?]

theorem four_le_size : 4 ≤ image.size := by
  have hpos := image.size_pos
  have hmod := image.size_mod_four
  unfold size
  omega

theorem size_mod : image.size % 4 = 0 := image.size_mod_four

theorem span_eq (i : Nat) :
    image.span i = if h : 4 * i < image.size then .ok (image.place i h)
      else .error (.outOfBounds (min (4 * i) greatestOffset) image.size) := rfl

theorem check_eq (i : Nat) : image.check i =
    match image.outside? i with
    | none => .ok ()
    | some fault => .error fault := by
  by_cases h : 4 * i < image.size
  · simp [check, span_eq, outside?, h, Except.map]
  · simp [check, span_eq, outside?, h, Except.map]

theorem read_eq (i : Nat) : image.read i =
    match image.outside? i with
    | none => .ok (image.word i)
    | some fault => .error fault := by
  by_cases h : 4 * i < image.size
  · simp [read, span_eq, outside?, word, h, Except.map]
  · simp [read, span_eq, outside?, h, Except.map]

theorem write_eq (i : Nat) (w : UInt32) : image.write i w =
    match image.outside? i with
    | none => .ok (image.put i w)
    | some fault => .error fault := by
  by_cases h : 4 * i < image.size
  · simp [write, span_eq, outside?, put, h, Except.map]
  · simp [write, span_eq, outside?, h, Except.map]

theorem read_of_inside {i : Nat} (h : image.outside? i = none) :
    image.read i = .ok (image.word i) := by rw [read_eq, h]

theorem write_of_inside {i : Nat} (w : UInt32) (h : image.outside? i = none) :
    image.write i w = .ok (image.put i w) := by rw [write_eq, h]

theorem outside?_zero : image.outside? 0 = none := by
  have := image.four_le_size
  rw [outside?_eq_none_iff]
  omega

@[simp]
theorem size_put (i : Nat) (w : UInt32) : (image.put i w).size = image.size := by
  unfold put
  split
  · simp
  · rfl

theorem getElem?_put (i : Nat) (w : UInt32) (k : Nat) :
    (image.put i w).bytes[k]? =
      if 4 * i < image.size ∧ 4 * i ≤ k ∧ k < 4 * i + 4 then some (Word.byte w (k - 4 * i))
      else image.bytes[k]? := by
  by_cases h : 4 * i < image.size
  · simp only [put, h, ↓reduceDIte, getElem?_store, place, true_and]
  · simp only [put, h, ↓reduceDIte, false_and, ↓reduceIte]

theorem byte_word {i k : Nat} (hi : 4 * i < image.size) (hk : k < 4) :
    some (Word.byte (image.word i) k) = image.bytes[4 * i + k]? := by
  have hfits := (image.place i hi).fits
  simp only [place] at hfits
  have hb := Word.byte_ofBytes image.bytes[4 * i] image.bytes[4 * i + 1] image.bytes[4 * i + 2]
    image.bytes[4 * i + 3]
  rw [Array.getElem?_eq_getElem (by omega)]
  simp only [word, hi, ↓reduceDIte, load, place]
  match k, hk with
  | 0, _ => exact congrArg some hb.1
  | 1, _ => exact congrArg some hb.2.1
  | 2, _ => exact congrArg some hb.2.2.1
  | 3, _ => exact congrArg some hb.2.2.2

theorem byte_congr {a b : Image} (hsize : a.size = b.size) {k : Nat}
    (hword : a.word (k / 4) = b.word (k / 4)) : a.bytes[k]? = b.bytes[k]? := by
  by_cases hk : k < a.size
  · have hmod := Nat.mod_lt k (show 0 < 4 by omega)
    rw [← Nat.div_add_mod k 4, ← byte_word a (by omega) hmod, ← byte_word b (by omega) hmod, hword]
  · have ha : a.bytes.size ≤ k := Nat.le_of_not_lt hk
    have hb : b.bytes.size ≤ k := Nat.le_of_not_lt (show ¬k < b.size from hsize ▸ hk)
    rw [Array.getElem?_eq_none ha, Array.getElem?_eq_none hb]

theorem word_of_outside {i : Nat} (h : ¬4 * i < image.size) : image.word i = 0 := by
  simp [word, h]

theorem word_put (i j : Nat) (w : UInt32) :
    (image.put i w).word j = if j = i ∧ 4 * i < image.size then w else image.word j := by
  by_cases hj : 4 * j < image.size
  · apply Word.byte_ext
    intro k hk
    apply Option.some.inj
    rw [byte_word _ (by simpa using hj) hk, getElem?_put]
    by_cases hji : j = i
    · subst hji
      rw [if_pos ⟨hj, by omega, by omega⟩, if_pos ⟨rfl, hj⟩, Nat.add_sub_cancel_left]
    · rw [if_neg (by omega), if_neg (fun h => hji h.1), byte_word _ hj hk]
  · have hw : ¬(j = i ∧ 4 * i < image.size) := by
      rintro ⟨rfl, h⟩
      exact hj h
    rw [if_neg hw, word_of_outside _ (by simpa using hj), word_of_outside _ hj]

theorem word_ext {a b : Image} (hsize : a.size = b.size)
    (hword : ∀ i, 4 * i < a.size → a.word i = b.word i) : a = b := by
  have hbytes : a.bytes = b.bytes := by
    apply Array.ext
    · exact hsize
    · intro k ha hb
      have hk : 4 * (k / 4) < a.size := by unfold size; omega
      have hab := byte_word a hk (Nat.mod_lt k (by omega))
      rw [hword _ hk, byte_word b (hsize ▸ hk) (Nat.mod_lt k (by omega)), Nat.div_add_mod,
        Array.getElem?_eq_getElem ha, Array.getElem?_eq_getElem hb] at hab
      exact (Option.some.inj hab).symm
  cases a
  cases b
  cases hbytes
  rfl

end Image

end FirmwareHeader
