import FirmwareHeader.Header.Layout
import FirmwareHeader.Header.SignedLength
import FirmwareHeader.Image.Basic

namespace FirmwareHeader.Header

open Numeral

/-- A header as it stands in an image, with the aligned length that leads to it. -/
structure Fields where
  signedLength : UInt32
  magic : UInt32
  signedSize : UInt32
  patchLevel : UInt32
  imageVersion : UInt32
deriving DecidableEq

namespace Fields

def read (image : Image) : Except Image.Fault Fields := do
  let lead ← image.read 0
  let length := SignedLength.align (SignedLength.ofLead lead)
  let magic ← image.read (Field.magic.index length)
  let signedSize ← image.read (Field.signedSize.index length)
  let patchLevel ← image.read (Field.patchLevel.index length)
  let imageVersion ← image.read (Field.imageVersion.index length)
  return ⟨length, magic, signedSize, patchLevel, imageVersion⟩

def entry (name : String) (w : UInt32) : String := "    " ++ name ++ ": " ++ hex w.toNat ++ ",\n"

def text (fields : Fields) : String :=
  "HeaderFields \x7b\n" ++ entry "signed_len" fields.signedLength ++
    entry "header_version" fields.magic ++ entry "size_fw_signed" fields.signedSize ++
    entry "security_patch_level" fields.patchLevel ++ entry "image_version" fields.imageVersion ++
    "\x7d"

end Fields

end FirmwareHeader.Header
