namespace FirmwareHeader.Files

inductive Fault
  | missing
  | notDirectory
  | isDirectory
  | nameTooLong
  | nulInPath
  | other (text : String)
deriving DecidableEq

def Fault.message : Fault → String
  | .missing => "No such file or directory (os error 2)"
  | .notDirectory => "Not a directory (os error 20)"
  | .isDirectory => "Is a directory (os error 21)"
  | .nameTooLong => "File name too long (os error 36)"
  | .nulInPath => "file name contained an unexpected NUL byte"
  | .other text => text

class Store (m : Type → Type) where
  isFile : String → m Bool
  read : String → m (Except Fault (Array UInt8))
  write : String → Array UInt8 → m (Except Fault Unit)

end FirmwareHeader.Files
