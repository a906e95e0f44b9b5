import FirmwareHeader.Image.Fault
import FirmwareHeader.Image.Word

namespace FirmwareHeader

/-- The bytes of a firmware image, a whole number of words and at least one. -/
structure Image where
  bytes : Array UInt8
  size_pos : 0 < bytes.size
  size_mod_four : bytes.size % 4 = 0
deriving DecidableEq

namespace Image

def ofBytes (bytes : Array UInt8) : Except Fault Image :=
  if h : bytes.size = 0 then .error .empty
  else if h' : bytes.size % 4 = 0 then .ok ⟨bytes, Nat.pos_of_ne_zero h, h'⟩
  else .error (.misaligned bytes.size)

def size (image : Image) : Nat := image.bytes.size

structure Span (image : Image) where
  start : Nat
  fits : start + 4 ≤ image.bytes.size

def greatestOffset : Nat := 0xFFFFFFFFFFFFFFFF

/-- Finds word `i`. It is enough to look at its first byte, for the image has no part of a word.
An offset that takes more than 64 bits is reported as the greatest that does not. -/
def span (image : Image) (i : Nat) : Except Fault image.Span :=
  if h : 4 * i < image.bytes.size then
    .ok ⟨4 * i, by have := image.size_mod_four; omega⟩
  else .error (.outOfBounds (min (4 * i) greatestOffset) image.size)

def load (image : Image) (s : image.Span) : UInt32 :=
  have := s.fits
  Word.ofBytes image.bytes[s.start] image.bytes[s.start + 1] image.bytes[s.start + 2]
    image.bytes[s.start + 3]

def store (image : Image) (s : image.Span) (w : UInt32) : Image where
  bytes := image.bytes
    |>.setIfInBounds s.start (Word.byte w 0)
    |>.setIfInBounds (s.start + 1) (Word.byte w 1)
    |>.setIfInBounds (s.start + 2) (Word.byte w 2)
    |>.setIfInBounds (s.start + 3) (Word.byte w 3)
  size_pos := by simpa using image.size_pos
  size_mod_four := by simpa using image.size_mod_four

def read (image : Image) (i : Nat) : Except Fault UInt32 := (image.span i).map image.load

def write (image : Image) (i : Nat) (w : UInt32) : Except Fault Image :=
  (image.span i).map fun s => image.store s w

def check (image : Image) (i : Nat) : Except Fault Unit := (image.span i).map fun _ => ()

@[simp]
theorem size_store (image : Image) (s : image.Span) (w : UInt32) :
    (image.store s w).size = image.size := by
  simp [store, size]

theorem getElem?_store (image : Image) (s : image.Span) (w : UInt32) (i : Nat) :
    (image.store s w).bytes[i]? =
      if s.start ≤ i ∧ i < s.start + 4 then some (Word.byte w (i - s.start))
      else image.bytes[i]? := by
  have hs := s.fits
  by_cases h : s.start ≤ i ∧ i < s.start + 4
  · obtain ⟨k, hk, rfl⟩ : ∃ k, k < 4 ∧ i = s.start + k := ⟨i - s.start, by omega, by omega⟩
    rw [if_pos h]
    match k, hk with
    | 0, _ | 1, _ | 2, _ | 3, _ => simp [store, Array.getElem?_setIfInBounds]; omega
  · rw [if_neg h]
    simp only [store, Array.getElem?_setIfInBounds]
    repeat rw [if_neg (by omega)]

theorem ofBytes_bytes (image : Image) : ofBytes image.bytes = .ok image := by
  have hpos := image.size_pos
  simp [ofBytes, image.size_mod_four, Nat.ne_of_gt hpos]

end Image

end FirmwareHeader
