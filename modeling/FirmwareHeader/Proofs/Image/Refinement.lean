import FirmwareHeader.Proofs.Image.Encoding
import Mathlib.Algebra.Group.Nat.Defs
import Mathlib.Data.List.InsertIdx

namespace FirmwareHeader.Image

class WordStore (α : Type) where
  read : α → Nat → Except Fault UInt32
  check : α → Nat → Except Fault Unit
  write : α → Nat → UInt32 → Except Fault α
  size : α → Nat
  bytes : α → Array UInt8
  same : α → α → Bool

instance : WordStore Image where
  read := Image.read
  check := Image.check
  write := Image.write
  size := Image.size
  bytes := Image.bytes
  same a b := a = b

/-- Word `i` is none of these. Its offset is reported as far as 64 bits can hold it. -/
def missing (words : Array UInt32) (i : Nat) : Fault :=
  .outOfBounds (min (4 * i) (2 ^ 64 - 1)) (4 * words.size)

instance : WordStore (Array UInt32) where
  read words i := if h : i < words.size then .ok words[i] else .error (missing words i)
  check words i := if i < words.size then .ok () else .error (missing words i)
  write words i w :=
    if h : i < words.size then .ok (words.set i w) else .error (missing words i)
  size words := 4 * words.size
  bytes := Word.encode
  same a b := a = b

/-- Calls on stores that stand in a row, each named by its place. A copy is put behind the last, and
a store that gives its bytes away is gone. -/
inductive Call
  | read (place i : Nat)
  | check (place i : Nat)
  | write (place i : Nat) (w : UInt32)
  | size (place : Nat)
  | bytes (place : Nat)
  | copy (place : Nat)
  | same (place other : Nat)
  | release (place : Nat)

inductive Answer
  | absent
  | word (result : Except Fault UInt32)
  | done (result : Except Fault Unit)
  | size (n : Nat)
  | bytes (bytes : Array UInt8)
  | same (equal : Bool)

namespace Call

variable {α β : Type}

def at? (row : List α) (place : Nat) (act : α → Answer × List α) : Answer × List α :=
  match row[place]? with
  | none => (.absent, row)
  | some a => act a

def perform [WordStore α] (row : List α) : Call → Answer × List α
  | .read place i => at? row place fun a => (.word (WordStore.read a i), row)
  | .check place i => at? row place fun a => (.done (WordStore.check a i), row)
  | .write place i w => at? row place fun a =>
    match WordStore.write a i w with
    | .ok a => (.done (.ok ()), row.set place a)
    | .error fault => (.done (.error fault), row)
  | .size place => at? row place fun a => (.size (WordStore.size a), row)
  | .bytes place => at? row place fun a => (.bytes (WordStore.bytes a), row)
  | .copy place => at? row place fun a => (.done (.ok ()), row ++ [a])
  | .same place other => at? row place fun a => at? row other fun b =>
    (.same (WordStore.same a b), row)
  | .release place => at? row place fun a => (.bytes (WordStore.bytes a), row.eraseIdx place)

def performAll [WordStore α] : List Call → List α → List Answer × List α
  | [], row => ([], row)
  | call :: calls, row =>
    let (answer, next) := call.perform row
    let (answers, final) := performAll calls next
    (answer :: answers, final)

/-- Nothing that is asked tells `a` from `f a`, and what is done to them keeps it so. -/
structure Simulates [WordStore α] [WordStore β] (f : α → β) : Prop where
  read : ∀ a i, WordStore.read (f a) i = WordStore.read a i
  check : ∀ a i, WordStore.check (f a) i = WordStore.check a i
  write : ∀ a i w, WordStore.write (f a) i w = (WordStore.write a i w).map f
  size : ∀ a, WordStore.size (f a) = WordStore.size a
  bytes : ∀ a, WordStore.bytes (f a) = WordStore.bytes a
  same : ∀ a b, WordStore.same (f a) (f b) = WordStore.same a b

theorem at?_map {f : α → β} {act : α → Answer × List α} {act' : β → Answer × List β}
    (h : ∀ a, act' (f a) = (act a).map id (List.map f)) (row : List α) (place : Nat) :
    at? (row.map f) place act' = (at? row place act).map id (List.map f) := by
  rw [at?, at?, List.getElem?_map]
  cases row[place]? with
  | none => rfl
  | some a => exact h a

section

variable [WordStore α] [WordStore β] {f : α → β}

theorem Simulates.perform (h : Simulates f) (row : List α) (call : Call) :
    call.perform (row.map f) = (call.perform row).map id (List.map f) := by
  cases call with
  | read place i => exact at?_map (fun a => by rw [h.read]; rfl) row place
  | check place i => exact at?_map (fun a => by rw [h.check]; rfl) row place
  | write place i w =>
      refine at?_map (fun a => ?_) row place
      rw [h.write]
      cases WordStore.write a i w with
      | error fault => rfl
      | ok next => simp [Except.map]
  | size place => exact at?_map (fun a => by rw [h.size]; rfl) row place
  | bytes place => exact at?_map (fun a => by rw [h.bytes]; rfl) row place
  | copy place => exact at?_map (fun a => by simp) row place
  | same place other =>
      refine at?_map (fun a => ?_) row place
      exact at?_map (fun b => by rw [h.same]; rfl) row other
  | release place =>
      refine at?_map (fun a => ?_) row place
      rw [h.bytes, List.eraseIdx_map]
      rfl

theorem Simulates.performAll (h : Simulates f) (calls : List Call) (row : List α) :
    performAll calls (row.map f) =
      ((performAll calls row).1, (performAll calls row).2.map f) := by
  induction calls generalizing row with
  | nil => rfl
  | cons call calls ih =>
      simp only [Call.performAll, h.perform, Prod.map, id_eq, ih]

end

end Call

open Call

theorem outside?_eq_missing (image : Image) (i : Nat) : image.outside? i =
    if i < image.words.size then none else some (missing image.words i) := by
  have hsize := image.four_mul_size_words
  have hgreatest : greatestOffset = 2 ^ 64 - 1 := by decide
  rw [outside?, missing, hsize, hgreatest]
  by_cases h : i < image.words.size
  · rw [if_pos (by omega), if_pos h]
  · rw [if_neg (by omega), if_neg h]

theorem simulates_words : Simulates words where
  read image i := by
    change (if h : i < image.words.size then _ else _) = image.read i
    rw [read_eq, outside?_eq_missing]
    by_cases h : i < image.words.size
    · simp [h, getElem_words]
    · simp [h]
  check image i := by
    change (if i < image.words.size then _ else _) = image.check i
    rw [check_eq, outside?_eq_missing]
    by_cases h : i < image.words.size
    · simp [h]
    · simp [h]
  write image i w := by
    change (if h : i < image.words.size then _ else _) = (image.write i w).map words
    rw [write_eq, outside?_eq_missing]
    by_cases h : i < image.words.size
    · simp [h, Except.map, words_put, Array.setIfInBounds]
    · simp [h, Except.map]
  size := four_mul_size_words
  bytes := encode_words
  same a b := by
    simp only [WordStore.same, words_inj]

def writeAll (image : Image) (writes : List (Nat × UInt32)) : Image :=
  writes.foldl (fun result p => (result.write p.1 p.2).toOption.getD result) image

theorem getD_write (image : Image) (i : Nat) (w : UInt32) :
    (image.write i w).toOption.getD image = image.put i w := by
  rw [write_eq, outside?]
  by_cases h : 4 * i < image.size
  · rw [if_pos h]
    rfl
  · rw [if_neg h, put, dif_neg h]
    rfl

theorem read_put (image : Image) (i j : Nat) (w : UInt32) :
    (image.put i w).read j = (image.read j).map fun original => if j = i then w else original := by
  rw [read_eq, read_eq, outside?, outside?, size_put, word_put]
  by_cases hj : 4 * j < image.size
  · rw [if_pos hj]
    by_cases hji : j = i
    · subst hji
      simp [Except.map, hj]
    · simp [Except.map, hji]
  · rw [if_neg hj]
    rfl

theorem read_writeAll (image : Image) (writes : List (Nat × UInt32)) (i : Nat) :
    (image.writeAll writes).read i =
      (image.read i).map fun original => (writes.reverse.lookup i).getD original := by
  induction writes generalizing image with
  | nil =>
      change image.read i = (image.read i).map id
      cases image.read i with
      | error fault => rfl
      | ok original => rfl
  | cons p writes ih =>
      obtain ⟨j, w⟩ := p
      change ((image.write j w).toOption.getD image |>.writeAll writes).read i = _
      rw [getD_write, ih, read_put, List.reverse_cons, List.lookup_append]
      cases image.read i with
      | error fault => rfl
      | ok original =>
          cases writes.reverse.lookup i with
          | some later => rfl
          | none =>
              by_cases h : i = j
              · simp [Except.map, h]
              · simp [Except.map, List.lookup_cons, beq_false_of_ne h, h]

theorem ofBytes_eq_empty_iff (bytes : Array UInt8) :
    ofBytes bytes = .error .empty ↔ bytes = #[] := by
  rw [ofBytes, ← Array.size_eq_zero_iff]
  by_cases hpos : bytes.size = 0
  · simp [hpos]
  · by_cases hmod : bytes.size % 4 = 0
    · simp [hpos, hmod]
    · simp [hpos, hmod]

theorem ofBytes_eq_misaligned_iff (bytes : Array UInt8) (n : Nat) :
    ofBytes bytes = .error (.misaligned n) ↔ bytes.size % 4 ≠ 0 ∧ n = bytes.size := by
  rw [ofBytes]
  by_cases hpos : bytes.size = 0
  · simp [hpos]
  · by_cases hmod : bytes.size % 4 = 0
    · simp [hpos, hmod]
    · simp [hpos, hmod, eq_comm]

theorem exists_ofBytes_iff (bytes : Array UInt8) :
    (∃ image, ofBytes bytes = .ok image) ↔ bytes ≠ #[] ∧ bytes.size % 4 = 0 := by
  rw [ofBytes, Ne, ← Array.size_eq_zero_iff]
  by_cases hpos : bytes.size = 0
  · simp [hpos]
  · by_cases hmod : bytes.size % 4 = 0
    · simp [hpos, hmod]
    · simp [hpos, hmod]

theorem exists_words_iff (bytes : Array UInt8) (words : Array UInt32) :
    (∃ image, ofBytes bytes = .ok image ∧ image.words = words) ↔
      words ≠ #[] ∧ words.size = bytes.size / 4 ∧ Word.encode words = bytes := by
  constructor
  · rintro ⟨image, hof, rfl⟩
    have hbytes := ofBytes_eq_ok hof
    have hsize := image.four_mul_size_words
    have hpos := image.four_le_size
    refine ⟨?_, ?_, by rw [encode_words, hbytes]⟩
    · rw [Ne, ← Array.size_eq_zero_iff]
      omega
    · rw [← hbytes]
      change image.words.size = image.size / 4
      omega
  · rintro ⟨hne, _, rfl⟩
    have hsize := Word.size_encode words
    rw [Ne, ← Array.size_eq_zero_iff] at hne
    obtain ⟨image, hof⟩ := (exists_ofBytes_iff (Word.encode words)).mpr
      ⟨by rw [Ne, ← Array.size_eq_zero_iff]; omega, by omega⟩
    have hbytes := ofBytes_eq_ok hof
    exact ⟨image, hof, Word.encode_injective (by rw [encode_words, hbytes])⟩

/-- An image is as good as the array of its words. It is made of bytes just where these are the
encoding of some words, and no calls tell it from the array, however many copies are made and
compared on the way. What is read is what was written last. -/
theorem words_refined :
    (∀ bytes : Array UInt8,
      (ofBytes bytes = .error .empty ↔ bytes = #[]) ∧
      (∀ n, ofBytes bytes = .error (.misaligned n) ↔ bytes.size % 4 ≠ 0 ∧ n = bytes.size) ∧
      ((∃ image, ofBytes bytes = .ok image) ↔ bytes ≠ #[] ∧ bytes.size % 4 = 0) ∧
      ∀ words, (∃ image, ofBytes bytes = .ok image ∧ image.words = words) ↔
        words ≠ #[] ∧ words.size = bytes.size / 4 ∧ Word.encode words = bytes) ∧
    (∀ (row : List Image) (calls : List Call), performAll calls (row.map words) =
      ((performAll calls row).1, (performAll calls row).2.map words)) ∧
    (∀ (image : Image) (writes : List (Nat × UInt32)) (i : Nat), (image.writeAll writes).read i =
      (image.read i).map fun original => (writes.reverse.lookup i).getD original) ∧
    ∀ image : Image, image.bytes = Word.encode image.words ∧ ofBytes image.bytes = .ok image := by
  refine ⟨?_, ?_, read_writeAll, ?_⟩
  · intro bytes
    exact ⟨ofBytes_eq_empty_iff bytes, ofBytes_eq_misaligned_iff bytes, exists_ofBytes_iff bytes,
      exists_words_iff bytes⟩
  · intro row calls
    exact simulates_words.performAll calls row
  · intro image
    exact ⟨image.encode_words.symm, ofBytes_bytes image⟩

end FirmwareHeader.Image
