import FirmwareHeader.Header.Fields
import FirmwareHeader.Proofs.Header.Footprint

namespace FirmwareHeader.Header

/-- What can be done with an image as long as it is open. Indices have 64 bits. -/
inductive Call
  | read (i : UInt64)
  | check (i : UInt64)
  | write (i : UInt64) (w : UInt32)
  | patch (imprint : Imprint)
  | fields
deriving DecidableEq

inductive Value
  | nothing
  | word (w : UInt32)
  | report (report : Report)
  | fields (fields : Fields)
deriving DecidableEq

namespace Call

def perform (image : Image) : Call → Except Image.Fault Value × Image
  | .read i => ((image.read i.toNat).map .word, image)
  | .check i => ((image.check i.toNat).map fun _ => .nothing, image)
  | .write i w =>
    match image.write i.toNat w with
    | .ok next => (.ok .nothing, next)
    | .error fault => (.error fault, image)
  | .patch imprint => (imprint.apply image).map (·.map .report) id
  | .fields => ((Fields.read image).map .fields, image)

theorem perform_of_error {image left : Image} {call : Call} {fault : Image.Fault}
    (h : call.perform image = (.error fault, left)) : left = image := by
  cases call with
  | read i | check i | fields => exact (congrArg Prod.snd h).symm
  | write i w =>
      rw [perform] at h
      cases hwrite : image.write i.toNat w with
      | ok next => simp [hwrite] at h
      | error fault' =>
          rw [hwrite] at h
          exact (congrArg Prod.snd h).symm
  | patch imprint =>
      rw [perform, Imprint.apply_eq] at h
      cases hfault : fault? image with
      | some fault' =>
          rw [hfault] at h
          exact (congrArg Prod.snd h).symm
      | none => simp [hfault, Except.map] at h

def performAll : List Call → Image → List (Except Image.Fault Value) × Image
  | [], image => ([], image)
  | call :: calls, image =>
    let (answer, next) := call.perform image
    let (answers, final) := performAll calls next
    (answer :: answers, final)

end Call

end FirmwareHeader.Header
