import FirmwareHeader.Header.Notice
import FirmwareHeader.Image.Basic

namespace FirmwareHeader.Header

structure Draft where
  image : Image
  notices : List Notice
deriving DecidableEq

/-- Steps that change an image. A fault ends them where they are and leaves the draft as it was at
that point. -/
abbrev Editing := EStateM Image.Fault Draft

namespace Editing

def read (i : Nat) : Editing UInt32 := fun draft =>
  match draft.image.read i with
  | .ok w => .ok w draft
  | .error fault => .error fault draft

def check (i : Nat) : Editing Unit := fun draft =>
  match draft.image.check i with
  | .ok () => .ok () draft
  | .error fault => .error fault draft

def write (i : Nat) (w : UInt32) : Editing Unit := fun draft =>
  match draft.image.write i w with
  | .ok image => .ok () { draft with image }
  | .error fault => .error fault draft

def note (notice : Notice) : Editing Unit :=
  modify fun draft => { draft with notices := draft.notices ++ [notice] }

end Editing

end FirmwareHeader.Header
