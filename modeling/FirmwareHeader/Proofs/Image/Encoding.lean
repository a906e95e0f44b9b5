import FirmwareHeader.Proofs.Image.Words

namespace FirmwareHeader

namespace Word

/-- The bytes of words in a row, the least significant byte of each word first. -/
def encode (words : Array UInt32) : Array UInt8 :=
  words.flatMap fun w => #[byte w 0, byte w 1, byte w 2, byte w 3]

theorem encode_cons (w : UInt32) (words : List UInt32) : encode (w :: words).toArray =
    #[byte w 0, byte w 1, byte w 2, byte w 3] ++ encode words.toArray := by
  simp [encode, List.flatMap_cons]

theorem size_encode (words : Array UInt32) : (encode words).size = 4 * words.size := by
  obtain ⟨words⟩ := words
  induction words with
  | nil => rfl
  | cons w words ih =>
      rw [encode_cons, Array.size_append, ih]
      simp only [List.size_toArray, List.length_cons, List.length_nil]
      omega

theorem getElem?_encode (words : Array UInt32) (k : Nat) :
    (encode words)[k]? = words[k / 4]?.map fun w => byte w (k % 4) := by
  obtain ⟨words⟩ := words
  induction words generalizing k with
  | nil => simp [encode]
  | cons w words ih =>
      rw [encode_cons, Array.getElem?_append]
      by_cases hk : k < 4
      · match k, hk with
        | 0, _ | 1, _ | 2, _ | 3, _ => rfl
      · obtain ⟨k, rfl⟩ : ∃ j, k = j + 4 := ⟨k - 4, by omega⟩
        have hdiv : (k + 4) / 4 = k / 4 + 1 := by omega
        simpa [hdiv, hk] using ih k

theorem encode_injective {a b : Array UInt32} (h : encode a = encode b) : a = b := by
  have hsize : a.size = b.size := by
    have := congrArg Array.size h
    simp only [size_encode] at this
    omega
  apply Array.ext hsize
  intro i ha hb
  apply byte_ext
  intro k hk
  have hbyte := congrArg (fun bytes => bytes[4 * i + k]?) h
  have hdiv : (4 * i + k) / 4 = i := by omega
  have hmod : (4 * i + k) % 4 = k := by omega
  simpa [getElem?_encode, hdiv, hmod, ha, hb] using hbyte

end Word

namespace Image

variable (image : Image)

def words : Array UInt32 := Array.ofFn fun i : Fin (image.size / 4) => image.word i

theorem four_mul_size_words : 4 * image.words.size = image.size := by
  have hmod := image.size_mod
  rw [words, Array.size_ofFn]
  omega

theorem getElem_words (i : Nat) (h : i < image.words.size) : image.words[i] = image.word i := by
  simp [words]

theorem getElem?_words (i : Nat) :
    image.words[i]? = if 4 * i < image.size then some (image.word i) else none := by
  have hmod := image.size_mod
  rw [words, Array.getElem?_ofFn]
  by_cases h : 4 * i < image.size
  · rw [if_pos h, dif_pos (by omega)]
  · rw [if_neg h, dif_neg (by omega)]

theorem encode_words : Word.encode image.words = image.bytes := by
  apply Array.ext_getElem?
  intro k
  rw [Word.getElem?_encode, getElem?_words]
  by_cases h : 4 * (k / 4) < image.size
  · rw [if_pos h, Option.map_some, byte_word _ h (Nat.mod_lt k (by omega)), Nat.div_add_mod]
  · rw [if_neg h, Option.map_none, Array.getElem?_eq_none]
    rw [size] at h
    omega

theorem words_inj {a b : Image} : a.words = b.words ↔ a = b := by
  constructor
  · intro h
    have hbytes : a.bytes = b.bytes := by rw [← encode_words, ← encode_words, h]
    cases a
    cases b
    cases hbytes
    rfl
  · rintro rfl
    rfl

theorem words_put (i : Nat) (w : UInt32) :
    (image.put i w).words = image.words.setIfInBounds i w := by
  have hsize := image.four_mul_size_words
  apply Array.ext_getElem?
  intro j
  rw [getElem?_words, size_put, word_put, Array.getElem?_setIfInBounds, getElem?_words]
  by_cases hij : i = j
  · subst hij
    by_cases hi : 4 * i < image.size
    · rw [if_pos hi, if_pos ⟨rfl, hi⟩, if_pos rfl, if_pos (by omega)]
    · rw [if_neg hi, if_pos rfl, if_neg (by omega)]
  · have hno : ¬(j = i ∧ 4 * i < image.size) := fun h => hij h.1.symm
    rw [if_neg hno, if_neg hij]

end Image

end FirmwareHeader
