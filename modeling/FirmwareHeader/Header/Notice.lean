import FirmwareHeader.Header.Layout
import FirmwareHeader.Numeral.Basic

namespace FirmwareHeader.Header

open Numeral

inductive Notice
  | realigning (raw aligned : UInt32)
  | unusualSize (actual : Nat)
deriving DecidableEq

def Notice.text : Notice → String
  | .realigning raw aligned =>
    "realigning signed length " ++ hex raw.toNat ++ " -> " ++ hex aligned.toNat
  | .unusualSize actual =>
    "AmdSL binary size is " ++ decimal actual ++ " bytes, not 64K (" ++ decimal nominalSize ++ ")"

end FirmwareHeader.Header
