import FirmwareHeader.Numeral.Basic

namespace FirmwareHeader.Image

open Numeral

inductive Fault
  | empty
  | misaligned (size : Nat)
  | lengthOverflow (aligned : UInt32)
  | outOfBounds (offset size : Nat)
deriving DecidableEq

def Fault.message : Fault → String
  | .empty => "image is empty"
  | .misaligned size => "image length " ++ decimal size ++ " is not a multiple of 4 bytes"
  | .lengthOverflow aligned =>
    "aligned signed length " ++ hex aligned.toNat ++ " does not fit in 16 bits"
  | .outOfBounds offset size =>
    "word at byte offset " ++ hex offset ++ " is past the end of the " ++ decimal size ++
      "-byte image"

end FirmwareHeader.Image
