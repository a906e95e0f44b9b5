import FirmwareHeader.Failure

namespace FirmwareHeader

open Numeral Text

def Numeral.Fault.wording : Numeral.Fault → String
  | .empty => "no digits"
  | .invalidDigit c => "invalid character " ++ quotedChar c
  | .underscore => "underscores may only separate digits"
  | .tooLarge => "number too large to fit in target type"

def Image.Fault.wording : Image.Fault → String
  | .empty => "image is empty"
  | .misaligned size => "image length " ++ decimal size ++ " is not a multiple of 4 bytes"
  | .lengthOverflow aligned =>
    "aligned signed length " ++ hex aligned.toNat ++ " does not fit in 16 bits"
  | .outOfBounds offset size =>
    "word at byte offset " ++ hex offset ++ " is past the end of the " ++ decimal size ++
      "-byte image"

def Files.Fault.wording : Files.Fault → String
  | .missing => "No such file or directory (os error 2)"
  | .notDirectory => "Not a directory (os error 20)"
  | .isDirectory => "Is a directory (os error 21)"
  | .nameTooLong => "File name too long (os error 36)"
  | .nulInPath => "file name contained an unexpected NUL byte"
  | .other text => text

namespace Failure

def firstLine (message : String) : String := "header_tool ERROR: " ++ message ++ "\n"

def twoLines (message cause : String) : String :=
  firstLine message ++ ("\tsource: " ++ cause ++ "\n")

/-- What stands on standard error of each failure, word for word. -/
def wording : Failure → String
  | .usage text => text
  | .noImage path => firstLine (path ++ " does not exist")
  | .badNumber .version text cause =>
    twoLines ("version " ++ quotedText text ++ " is not valid hexadecimal") cause.wording
  | .badNumber .spl text cause =>
    twoLines ("spl " ++ quotedText text ++ " is not valid hexadecimal") cause.wording
  | .badImage cause => twoLines "malformed image" cause.wording
  | .badFile .read path cause => twoLines ("cannot read " ++ path) cause.wording
  | .badFile .write path cause => twoLines ("cannot write " ++ path) cause.wording

theorem report_of_cause {failure : Failure} {message cause : String}
    (hmessage : failure.message = message) (hcauses : failure.causes = [cause]) :
    failure.report = twoLines message cause := by
  have hreport : failure.report = firstLine failure.message ++
      String.join (failure.causes.map fun cause => "\tsource: " ++ cause ++ "\n") := by
    cases failure with
    | usage text => cases hcauses
    | noImage path | badNumber name text cause | badImage cause | badFile action path cause => rfl
  rw [hreport, hmessage, hcauses, twoLines]
  simp [String.join]

theorem report_eq_wording (failure : Failure) : failure.report = failure.wording := by
  cases failure with
  | usage text => rfl
  | noImage path => exact String.append_empty
  | badNumber name text cause =>
      have hcause : [cause.message] = [cause.wording] := by cases cause <;> rfl
      cases name with
      | version =>
          have hname : "version" ++ " " = "version " := by decide
          exact report_of_cause (congrArg (· ++ quotedText text ++ _) hname) hcause
      | spl =>
          have hname : "spl" ++ " " = "spl " := by decide
          exact report_of_cause (congrArg (· ++ quotedText text ++ _) hname) hcause
  | badImage cause =>
      have hcause : [cause.message] = [cause.wording] := by cases cause <;> rfl
      exact report_of_cause rfl hcause
  | badFile action path cause =>
      have hcause : [cause.message] = [cause.wording] := by cases cause <;> rfl
      cases action with
      | read =>
          have haction : "cannot " ++ "read" ++ " " = "cannot read " := by decide
          exact report_of_cause (congrArg (· ++ path) haction) hcause
      | write =>
          have haction : "cannot " ++ "write" ++ " " = "cannot write " := by decide
          exact report_of_cause (congrArg (· ++ path) haction) hcause

end Failure

end FirmwareHeader
