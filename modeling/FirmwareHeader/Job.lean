import FirmwareHeader.Failure
import FirmwareHeader.Header.Writer
import FirmwareHeader.Log.Record

namespace FirmwareHeader

open Files Header Log

structure Job where
  image : String
  version : UInt32
  patchLevel : UInt32
  output : String
  policy : FlagPolicy
deriving DecidableEq

namespace Job

variable {m : Type → Type} [Monad m] [Store m]

def number (name : NumberName) (text : String) : Except Failure UInt32 :=
  (Numeral.read text).mapError (.badNumber name text)

/-- The image has to be there before the numbers are looked at. -/
def prepare (image version patchLevel output : String) (policy : FlagPolicy) :
    m (Except Failure Job) := do
  if ← Store.isFile image then
    return do
      let version ← number .version version
      let patchLevel ← number .spl patchLevel
      return ⟨image, version, patchLevel, output, policy⟩
  else return .error (.noImage image)

def readBack (image : Image) : List Record :=
  match Fields.read image with
  | .ok fields => [.header fields]
  | .error _ => []

def process (job : Job) (bytes : Array UInt8) : List Record × Except Image.Fault (Image × Report) :=
  let opened := Record.opened bytes.size job.image
  match Image.ofBytes bytes with
  | .error fault => ([opened], .error fault)
  | .ok image =>
    match Header.write job.version job.patchLevel job.policy ⟨image, []⟩ with
    | .error fault draft => (opened :: draft.notices.map .noticed, .error fault)
    | .ok report draft =>
      let written := Record.written report.signedLength report.rawLength job.version job.patchLevel
      (opened :: draft.notices.map .noticed ++ written :: readBack draft.image,
        .ok (draft.image, report))

/-- The image is read as a whole before anything is written, so the output may be the image. -/
def run (job : Job) : m (List Record × Except Failure Report) := do
  match ← Store.read job.image with
  | .error cause => return ([], .error (.badFile .read job.image cause))
  | .ok bytes =>
    match job.process bytes with
    | (records, .error cause) => return (records, .error (.badImage cause))
    | (records, .ok (image, report)) =>
      match ← Store.write job.output image.bytes with
      | .error cause => return (records, .error (.badFile .write job.output cause))
      | .ok () => return (records, .ok report)

end Job

end FirmwareHeader
