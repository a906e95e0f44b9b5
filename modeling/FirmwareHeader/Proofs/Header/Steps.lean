import FirmwareHeader.Proofs.Header.Footprint
import Mathlib.Logic.Function.Iterate

namespace FirmwareHeader.Header

open SignedLength

inductive Stage
  | surveying
  | checking (report : Report) (lead : UInt32) (todo : List (Field × UInt32))
  | writing (report : Report) (todo : List (Nat × UInt32))
  | finished (report : Report)
  | failed (fault : Image.Fault)

structure Progress where
  stage : Stage
  draft : Draft
  written : List (Nat × UInt32)

namespace Progress

def start (image : Image) : Progress := ⟨.surveying, ⟨image, []⟩, []⟩

def advance {α : Type} (p : Progress) (x : Editing α) (next : α → Stage)
    (words : List (Nat × UInt32)) : Progress :=
  match x p.draft with
  | .ok a draft => ⟨next a, draft, p.written ++ words⟩
  | .error fault draft => ⟨.failed fault, draft, p.written⟩

def result? (p : Progress) : Option (Except Image.Fault Report) :=
  match p.stage with
  | .finished report => some (.ok report)
  | .failed fault => some (.error fault)
  | _ => none

section

variable {α : Type} {p : Progress} {x : Editing α} {next : α → Stage}
  {words : List (Nat × UInt32)} {draft : Draft}

theorem advance_of_ok {a : α} (h : x p.draft = .ok a draft) :
    p.advance x next words = ⟨next a, draft, p.written ++ words⟩ := by
  rw [advance, h]

theorem advance_of_error {fault : Image.Fault} (h : x p.draft = .error fault draft) :
    p.advance x next words = ⟨.failed fault, draft, p.written⟩ := by
  rw [advance, h]

end

end Progress

namespace Imprint

variable (imprint : Imprint)

/-- The part of `write` that looks at the image and speaks. It comes to the report that is to be
given and to the new word 0. -/
def survey : Editing (Report × UInt32) := do
  let lead ← Editing.read 0
  let new ← imprint.start lead
  let unusual ← noteSize
  let raw := ofLead lead
  return (⟨raw, align raw, align raw != raw, unusual⟩, new)

def wordsFor (report : Report) : List (Field × UInt32) :=
  contents report.signedLength imprint.version imprint.patchLevel

def writes (report : Report) (lead : UInt32) : List (Nat × UInt32) :=
  (0, lead) :: (imprint.wordsFor report).map fun (field, w) =>
    (field.index report.signedLength, w)

/-- One step of a call. Every check and every write is a step of its own. -/
def next (p : Progress) : Progress :=
  match p.stage with
  | .surveying =>
    p.advance imprint.survey (fun (report, lead) => .checking report lead (imprint.wordsFor report))
      []
  | .checking report lead [] => { p with stage := .writing report (imprint.writes report lead) }
  | .checking report lead ((field, _) :: todo) =>
    p.advance (Editing.check (field.index report.signedLength))
      (fun _ => .checking report lead todo) []
  | .writing report [] => { p with stage := .finished report }
  | .writing report ((i, w) :: todo) =>
    p.advance (Editing.write i w) (fun _ => .writing report todo) [(i, w)]
  | .finished _ | .failed _ => p

/-- What is left of a call from a stage on. -/
def resume : Stage → Editing Report
  | .surveying => imprint.write
  | .checking report lead todo => do
    todo.forM fun (field, _) => Editing.check (field.index report.signedLength)
    (imprint.writes report lead).forM fun (i, w) => Editing.write i w
    return report
  | .writing report todo => do
    todo.forM fun (i, w) => Editing.write i w
    return report
  | .finished report => pure report
  | .failed fault => throw fault

theorem resume_surveying : imprint.resume .surveying = imprint.survey >>= fun (report, lead) =>
    imprint.resume (.checking report lead (imprint.wordsFor report)) := by
  rw [resume, write_eq_bind, survey]
  simp only [bind_assoc, pure_bind]
  congr 1
  funext lead
  congr 1
  funext new
  rw [finish]
  congr 1
  funext unusual
  simp only [resume, writes, wordsFor, contents, List.map_cons, List.map_nil, List.forM_eq_forM,
    List.forM_cons, List.forM_nil, bind_assoc]

theorem resume_advance {α : Type} {p : Progress} {x : Editing α} {next : α → Stage}
    (words : List (Nat × UInt32))
    (h : imprint.resume p.stage = x >>= fun a => imprint.resume (next a)) :
    imprint.resume (p.advance x next words).stage (p.advance x next words).draft =
      imprint.resume p.stage p.draft := by
  rw [h]
  cases hx : x p.draft with
  | ok a draft => rw [Progress.advance_of_ok hx, Editing.bind_of_ok hx]
  | error fault draft =>
      rw [Progress.advance_of_error hx, Editing.bind_of_error hx]
      rfl

theorem resume_next (p : Progress) : imprint.resume (imprint.next p).stage (imprint.next p).draft =
    imprint.resume p.stage p.draft := by
  obtain ⟨stage, draft, written⟩ := p
  cases stage with
  | surveying => exact imprint.resume_advance [] imprint.resume_surveying
  | checking report lead todo =>
      cases todo with
      | nil => rfl
      | cons p todo => exact imprint.resume_advance [] (bind_assoc _ _ _)
  | writing report todo =>
      cases todo with
      | nil => rfl
      | cons p todo => exact imprint.resume_advance [p] (bind_assoc _ _ _)
  | finished report => rfl
  | failed fault => rfl

theorem resume_iterate (n : Nat) (p : Progress) :
    imprint.resume (imprint.next^[n] p).stage (imprint.next^[n] p).draft =
      imprint.resume p.stage p.draft := by
  induction n generalizing p with
  | zero => rfl
  | succ n ih => rw [Function.iterate_succ_apply, ih, resume_next]

def after (image : Image) (n : Nat) : Progress := imprint.next^[n] (.start image)

theorem resume_after (image : Image) (n : Nat) :
    imprint.resume (imprint.after image n).stage (imprint.after image n).draft =
      imprint.write ⟨image, []⟩ :=
  imprint.resume_iterate n (.start image)

theorem apply_of_result? {image : Image} {n : Nat} {result : Except Image.Fault Report}
    (h : (imprint.after image n).result? = some result) :
    imprint.apply image = (result, (imprint.after image n).draft.image) := by
  rw [apply, ← imprint.resume_after image n]
  generalize imprint.after image n = p at h
  obtain ⟨stage, draft, written⟩ := p
  cases stage with
  | finished report => cases h; rfl
  | failed fault => cases h; rfl
  | surveying | checking | writing => cases h

def Ends (p : Progress) : Prop := ∃ n result, (imprint.next^[n] p).result? = some result

variable {imprint}

theorem Ends.of_next {p : Progress} (h : imprint.Ends (imprint.next p)) : imprint.Ends p := by
  obtain ⟨n, result, hresult⟩ := h
  exact ⟨n + 1, result, hresult⟩

theorem Ends.advance {α : Type} {p : Progress} {x : Editing α} {next : α → Stage}
    {words : List (Nat × UInt32)}
    (h : ∀ a draft written, imprint.Ends ⟨next a, draft, written⟩) :
    imprint.Ends (p.advance x next words) := by
  cases hx : x p.draft with
  | ok a draft =>
      rw [Progress.advance_of_ok hx]
      exact h a draft _
  | error fault draft =>
      rw [Progress.advance_of_error hx]
      exact ⟨0, .error fault, rfl⟩

theorem ends_writing (report : Report) (todo : List (Nat × UInt32)) (draft : Draft)
    (written : List (Nat × UInt32)) : imprint.Ends ⟨.writing report todo, draft, written⟩ := by
  induction todo generalizing draft written with
  | nil => exact ⟨1, .ok report, rfl⟩
  | cons p todo ih => exact .of_next (.advance fun _ => ih)

theorem ends_checking (report : Report) (lead : UInt32) (todo : List (Field × UInt32))
    (draft : Draft) (written : List (Nat × UInt32)) :
    imprint.Ends ⟨.checking report lead todo, draft, written⟩ := by
  induction todo generalizing draft written with
  | nil => exact .of_next (ends_writing report _ draft written)
  | cons p todo ih => exact .of_next (.advance fun _ => ih)

variable (imprint)

theorem exists_result (image : Image) : ∃ n result,
    (imprint.after image n).result? = some result ∧
      imprint.apply image = (result, (imprint.after image n).draft.image) := by
  have hends : imprint.Ends (.start image) :=
    .of_next (.advance fun (report, lead) => ends_checking report lead _)
  obtain ⟨n, result, hresult⟩ := hends
  exact ⟨n, result, hresult, imprint.apply_of_result? hresult⟩

end Imprint

end FirmwareHeader.Header
