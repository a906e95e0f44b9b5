namespace FirmwareHeader.Header

/-- The characters `$AS1`, the first of them in the lowest byte. -/
def magic : UInt32 := 0x31534124

def nominalSize : Nat := 65536

inductive Field
  | magic
  | signedSize
  | patchLevel
  | imageVersion
deriving DecidableEq

def Field.offset : Field → Nat
  | .magic => 0x10
  | .signedSize => 0x14
  | .patchLevel => 0x4C
  | .imageVersion => 0x60

/-- The index of a field's word in an image whose header follows `length` bytes. -/
def Field.index (length : UInt32) (field : Field) : Nat := length.toNat / 4 + field.offset / 4

end FirmwareHeader.Header
