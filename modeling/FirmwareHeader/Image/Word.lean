namespace FirmwareHeader.Word

/-- Byte `k` of a word, byte 0 being the least significant. -/
def byte (w : UInt32) (k : Nat) : UInt8 := UInt8.ofNat (w.toNat >>> (8 * k))

def ofBytes (b₀ b₁ b₂ b₃ : UInt8) : UInt32 :=
  UInt32.ofNat (b₀.toNat + 256 * (b₁.toNat + 256 * (b₂.toNat + 256 * b₃.toNat)))

theorem toNat_byte (w : UInt32) (k : Nat) : (byte w k).toNat = w.toNat >>> (8 * k) % 256 := by
  simp [byte]

theorem toNat_ofBytes (b₀ b₁ b₂ b₃ : UInt8) : (ofBytes b₀ b₁ b₂ b₃).toNat =
    b₀.toNat + 256 * (b₁.toNat + 256 * (b₂.toNat + 256 * b₃.toNat)) := by
  have h₀ := b₀.toNat_lt
  have h₁ := b₁.toNat_lt
  have h₂ := b₂.toNat_lt
  have h₃ := b₃.toNat_lt
  simp only [ofBytes, UInt32.toNat_ofNat']
  omega

theorem ofBytes_byte (w : UInt32) : ofBytes (byte w 0) (byte w 1) (byte w 2) (byte w 3) = w := by
  apply UInt32.toNat.inj
  have := w.toNat_lt
  simp only [toNat_ofBytes, toNat_byte]
  omega

theorem byte_ofBytes (b₀ b₁ b₂ b₃ : UInt8) :
    byte (ofBytes b₀ b₁ b₂ b₃) 0 = b₀ ∧ byte (ofBytes b₀ b₁ b₂ b₃) 1 = b₁ ∧
      byte (ofBytes b₀ b₁ b₂ b₃) 2 = b₂ ∧ byte (ofBytes b₀ b₁ b₂ b₃) 3 = b₃ := by
  have h₀ := b₀.toNat_lt
  have h₁ := b₁.toNat_lt
  have h₂ := b₂.toNat_lt
  have h₃ := b₃.toNat_lt
  refine ⟨?_, ?_, ?_, ?_⟩ <;> apply UInt8.toNat.inj <;>
    simp only [toNat_byte, toNat_ofBytes] <;> omega

end FirmwareHeader.Word
