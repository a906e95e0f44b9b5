import FirmwareHeader.Files.Tree

namespace FirmwareHeader.Files

/-- How the files of a store are told apart: the place that a path leads to, if it leads to one, and
what stands in a place. -/
class Layout (σ : Type) where
  Place : Type
  find : σ → String → Option Place
  entry : σ → Place → Option Entry

namespace Layout

variable {σ : Type} [Layout σ]

def fileAt (s : σ) (path : String) : Option (Array UInt8) :=
  match (find s path).bind (entry s) with
  | some (.file bytes) => some bytes
  | _ => none

/-- From `s` to `t` a file was written at `place`, where the path leads. It has replaced the file
that the path led to, if there was one, and all other places are as they were. -/
structure Written (s t : σ) (path : String) (bytes : Array UInt8) (place : Place σ) : Prop where
  find_path : find t path = some place
  find_eq : ∀ q, find s path = some q → q = place
  not_directory : entry s place ≠ some .directory
  entry_place : entry t place = some (.file bytes)
  entry_other : ∀ q, q ≠ place → entry t q = entry s q

theorem fileAt_eq_some_iff (s : σ) (path : String) (bytes : Array UInt8) :
    fileAt s path = some bytes ↔ ∃ q, find s path = some q ∧ entry s q = some (.file bytes) := by
  unfold fileAt
  cases find s path with
  | none => simp
  | some q =>
      simp only [Option.bind_some, Option.some.injEq, exists_eq_left']
      cases entry s q with
      | none => simp
      | some e => cases e <;> simp

theorem Written.fileAt_path {s t : σ} {path : String} {bytes : Array UInt8} {place : Place σ}
    (h : Written s t path bytes place) : fileAt t path = some bytes :=
  (fileAt_eq_some_iff t path bytes).mpr ⟨place, h.find_path, h.entry_place⟩

end Layout

namespace Store

variable {σ : Type}

theorem run_bind_of {α β : Type} {x : StateM σ α} {f : α → StateM σ β} {s t : σ} {a : α}
    (h : x.run s = (a, t)) : (x >>= f).run s = (f a).run t := by
  rw [StateT.run_bind, h]
  rfl

variable [Store (StateM σ)]

abbrev isFileIn (s : σ) (path : String) : Bool × σ := (isFile path : StateM σ Bool).run s

abbrev readIn (s : σ) (path : String) : Except Fault (Array UInt8) × σ :=
  (read path : StateM σ (Except Fault (Array UInt8))).run s

abbrev writeIn (s : σ) (path : String) (bytes : Array UInt8) : Except Fault Unit × σ :=
  (write path bytes : StateM σ (Except Fault Unit)).run s

end Store

open Layout Store

/-- To look at a file and to read it changes nothing, and neither does a write that fails. Any path
may fail to be read or written, but what is read is what the file holds. -/
class LawfulStore (σ : Type) [Store (StateM σ)] [Layout σ] : Prop where
  isFile_run (s : σ) (path : String) : isFileIn s path = ((fileAt s path).isSome, s)
  read_run (s : σ) (path : String) :
    ∃ result, readIn s path = (result, s) ∧ ∀ bytes, result = .ok bytes → fileAt s path = some bytes
  write_run (s : σ) (path : String) (bytes : Array UInt8) :
    (∃ cause, writeIn s path bytes = (.error cause, s)) ∨
    ∃ t place, writeIn s path bytes = (.ok (), t) ∧ Written s t path bytes place

end FirmwareHeader.Files
