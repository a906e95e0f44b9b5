import FirmwareHeader.Header.Editing
import FirmwareHeader.Header.SignedLength

namespace FirmwareHeader.Header

structure Report where
  rawLength : UInt32
  signedLength : UInt32
  realigned : Bool
  unusualSize : Option Nat
deriving DecidableEq

def realign (policy : FlagPolicy) (lead raw aligned : UInt32) : Editing UInt32 := do
  if SignedLength.greatest < aligned then throw (.lengthOverflow aligned)
  Editing.note (.realigning raw aligned)
  return policy.withLength lead aligned

def noteSize : Editing (Option Nat) := do
  let size := (← get).image.size
  if size = nominalSize then return none
  Editing.note (.unusualSize size)
  return some size

/-- The words of a header, in the order in which they are written. -/
def contents (length version patchLevel : UInt32) : List (Field × UInt32) :=
  [(.magic, magic), (.signedSize, length), (.imageVersion, version), (.patchLevel, patchLevel)]

/-- Aligns the length in word 0 and writes the header behind the signed part. The place of every
word is checked before the first is written, so a fault leaves the image unchanged. -/
def write (version patchLevel : UInt32) (policy : FlagPolicy) : Editing Report := do
  let lead ← Editing.read 0
  let raw := SignedLength.ofLead lead
  let length := SignedLength.align raw
  let lead ← if length = raw then pure lead else realign policy lead raw length
  let unusual ← noteSize
  let words := contents length version patchLevel
  words.forM fun (field, _) => Editing.check (field.index length)
  Editing.write 0 lead
  words.forM fun (field, w) => Editing.write (field.index length) w
  return ⟨raw, length, length != raw, unusual⟩

end FirmwareHeader.Header
