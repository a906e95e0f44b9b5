import FirmwareHeader.CommandLine.Argument
import FirmwareHeader.CommandLine.Reader

namespace FirmwareHeader.CommandLine

inductive Complaint
  | help
  | unexpected (argument : String)
  | overfull (flag value : String)
  | valueless (p : Parameter)
  | repeated (item : Item)
  | missing (ps : List Parameter)
deriving DecidableEq

structure Reading where
  mentions : List Mention
  pending : Option Parameter
deriving DecidableEq

namespace Reading

def prepend (ms : List Mention) (r : Reading) : Reading := ⟨ms ++ r.mentions, r.pending⟩

def unvalued (pending : Option Parameter) : List Mention :=
  pending.toList.map fun p => ⟨.parameter p, none⟩

/-- Reads the arguments from the left, `pending` being an option whose value is to come. A plain
argument is its value, while another option leaves it without. The first argument that cannot
stand where it does, or asks for help, ends the reading. -/
def ofArguments (pending : Option Parameter) : List String → Except Complaint Reading
  | [] => .ok ⟨unvalued pending, pending⟩
  | text :: rest =>
    match Argument.ofString text with
    | .plain =>
      match pending with
      | some p => (ofArguments none rest).map (prepend [⟨.parameter p, some text⟩])
      | none => .error (.unexpected text)
    | .endOfOptions =>
      match rest with
      | [] => .ok ⟨unvalued pending, pending⟩
      | next :: _ => .error (.unexpected next)
    | .help => .error .help
    | .unknown shown => .error (.unexpected shown)
    | .overfull flag value => .error (.overfull flag value)
    | .keepFlags => (ofArguments none rest).map (prepend (unvalued pending ++ [⟨.keepFlags, none⟩]))
    | .bare p => (ofArguments (some p) rest).map (prepend (unvalued pending))
    | .valued p value =>
      (ofArguments none rest).map (prepend (unvalued pending ++ [⟨.parameter p, some value⟩]))

def values (r : Reading) (p : Parameter) : List String :=
  (valuesOf r.mentions (.parameter p)).filterMap id

def count (r : Reading) (item : Item) : Nat := (valuesOf r.mentions item).length

def fault? (r : Reading) (item : Item) : Option Complaint :=
  let lacking : Option Complaint := match item with
    | .parameter p => if r.values p = [] then some (.valueless p) else none
    | .keepFlags => none
  lacking <|> if 1 < r.count item then some (.repeated item) else none

def absent (r : Reading) : List Parameter :=
  Parameter.all.filter fun p => r.count (.parameter p) = 0

/-- An option that the arguments end with is judged first, then those that do not occur, and last
all others in order of occurrence. -/
def judge (r : Reading) : Except Complaint Args := do
  if let some p := r.pending then
    if r.values p = [] then throw (.valueless p)
  if r.absent ≠ [] then throw (.missing r.absent)
  if let some complaint := r.mentions.findSome? fun mention => r.fault? mention.item then
    throw complaint
  match r.values .image, r.values .version, r.values .spl, r.values .output with
  | [image], [version], [spl], [output] =>
    return ⟨image, version, spl, output, r.count .keepFlags ≠ 0⟩
  | _, _, _, _ => throw (.missing r.absent)

def resume (ms : List Mention) (arguments : List String) : Except Complaint Args := do
  ((← ofArguments none arguments).prepend ms).judge

end Reading

end FirmwareHeader.CommandLine
