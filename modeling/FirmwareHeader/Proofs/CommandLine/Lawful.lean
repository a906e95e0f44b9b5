import FirmwareHeader.CommandLine.Reader
import FirmwareHeader.CommandLine.Spelling

namespace FirmwareHeader.CommandLine

/-- The rules for reading options. An option is read where it stands, in any spelling that suits its
value, and is no more than a mention from then on. When nothing is left, the arguments are in order
if each option has one value, and the flag is optional. -/
structure Reader.Lawful (reader : Reader) : Prop where
  parameter (ms : List Mention) (p : Parameter) (value : String) (spelling : Spelling)
    (rest : List String) : spelling.Suits value →
      reader.resume ms (spelling.arguments p value ++ rest) =
        reader.resume (ms ++ [⟨.parameter p, some value⟩]) rest
  keepFlags (ms : List Mention) (rest : List String) :
    reader.resume ms ("--preserve-flags" :: rest) = reader.resume (ms ++ [⟨.keepFlags, none⟩]) rest
  finish (ms : List Mention) (args : Args) : (∀ item, valuesOf ms item = args.values item) →
    reader.resume ms [] = .ok args

inductive Occurrence
  | parameter (p : Parameter) (value : String) (spelling : Spelling)
  | keepFlags
deriving DecidableEq

namespace Occurrence

def mention : Occurrence → Mention
  | .parameter p value _ => ⟨.parameter p, some value⟩
  | .keepFlags => ⟨.keepFlags, none⟩

def arguments : Occurrence → List String
  | .parameter p value spelling => spelling.arguments p value
  | .keepFlags => ["--preserve-flags"]

def Suits : Occurrence → Prop
  | .parameter _ value spelling => spelling.Suits value
  | .keepFlags => True

instance : DecidablePred Suits := fun o => by
  cases o <;> simp only [Suits] <;> infer_instance

end Occurrence

def written (os : List Occurrence) : List String := os.flatMap Occurrence.arguments

namespace Reader.Lawful

variable {reader : Reader} (hreader : reader.Lawful)

include hreader

theorem resume_occurrence {o : Occurrence} (h : o.Suits) (ms : List Mention) (rest : List String) :
    reader.resume ms (o.arguments ++ rest) = reader.resume (ms ++ [o.mention]) rest := by
  cases o with
  | parameter p value spelling => exact hreader.parameter ms p value spelling rest h
  | keepFlags => exact hreader.keepFlags ms rest

theorem resume_written {os : List Occurrence} (h : ∀ o ∈ os, o.Suits) (ms : List Mention) :
    reader.resume ms (written os) = reader.resume (ms ++ os.map (·.mention)) [] := by
  induction os generalizing ms with
  | nil => rw [List.map_nil, List.append_nil]; rfl
  | cons o os ih =>
      have hrest := ih (fun o ho => h o (List.mem_cons_of_mem _ ho)) (ms ++ [o.mention])
      rw [List.append_assoc] at hrest
      exact (hreader.resume_occurrence (h o List.mem_cons_self) ms (written os)).trans hrest

end Reader.Lawful

end FirmwareHeader.CommandLine
