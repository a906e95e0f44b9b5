import FirmwareHeader.Proofs.Files.Lawful

namespace FirmwareHeader.Files

namespace Tree

variable {tree : Tree} {location directory l next : Location} {name : String}
  {names more : List String} {e : Entry}

theorem walk_append : tree.walk l (names ++ more) =
    (tree.walk l names).bind fun next => tree.walk next more := by
  induction names generalizing l with
  | nil => rfl
  | cons name names ih =>
      simp only [List.cons_append, walk, bind, Except.bind]
      cases tree.lookup l with
      | none => rfl
      | some e =>
          cases e with
          | file bytes => rfl
          | directory =>
              cases tree.step l name with
              | error fault => rfl
              | ok next => exact ih

theorem walk_cons_ok (h : tree.walk l (name :: names) = .ok next) :
    tree.lookup l = some .directory ∧
      ∃ middle, tree.step l name = .ok middle ∧ tree.walk middle names = .ok next := by
  simp only [walk, bind, Except.bind] at h
  cases hl : tree.lookup l with
  | none => simp [hl] at h
  | some e =>
      cases e with
      | file bytes => simp [hl] at h
      | directory =>
          cases hstep : tree.step l name with
          | error fault => simp [hl, hstep] at h
          | ok middle =>
              simp only [hl, hstep] at h
              exact ⟨rfl, middle, rfl, h⟩

theorem step_of_name (hdot : name ≠ ".") (hdots : name ≠ "..")
    (hlong : ¬nameLimit < name.utf8ByteSize) : tree.step l name =
      match tree.lookup (l ++ [name]) with
      | none => .error .missing
      | some _ => .ok (l ++ [name]) := by
  rw [step, if_neg hdot, if_neg hdots]
  exact if_neg hlong

theorem step_insert (hlocation : location ≠ []) (h : tree.step l name = .ok next) :
    (tree.insert location e).step l name = .ok next := by
  by_cases hdot : name = "."
  · rw [step, if_pos hdot] at h ⊢
    exact h
  · by_cases hdots : name = ".."
    · rw [step, if_neg hdot, if_pos hdots] at h ⊢
      exact h
    · by_cases hlong : nameLimit < name.utf8ByteSize
      · rw [step, if_neg hdot, if_neg hdots, if_pos hlong] at h
        cases h
      · rw [step_of_name hdot hdots hlong] at h ⊢
        rw [lookup_insert tree location _ e hlocation]
        by_cases hnew : l ++ [name] = location
        · rw [if_pos hnew]
          cases hold : tree.lookup (l ++ [name]) with
          | none => simp [hold] at h
          | some old => simpa [hold] using h
        · rw [if_neg hnew]
          exact h

theorem walk_insert (hlocation : location ≠ []) (hplace : tree.lookup location ≠ some .directory)
    (h : tree.walk l names = .ok next) : (tree.insert location e).walk l names = .ok next := by
  induction names generalizing l with
  | nil => exact h
  | cons name names ih =>
      obtain ⟨hl, middle, hstep, hwalk⟩ := walk_cons_ok h
      have hne : l ≠ location := by
        rintro rfl
        exact hplace hl
      simp only [walk, bind, Except.bind, lookup_insert tree location _ e hlocation, if_neg hne, hl,
        step_insert hlocation hstep, ih hwalk]

theorem target_cases {text : String} (h : tree.target text = .ok location) :
    ∃ path directory name, parse text = .ok path ∧
      tree.walk (tree.start path) path.names.dropLast = .ok directory ∧
      tree.lookup directory = some .directory ∧ path.names.getLast? = some name ∧
      path.endsInSlash = false ∧ name ≠ "." ∧ name ≠ ".." ∧ ¬nameLimit < name.utf8ByteSize ∧
      location = directory ++ [name] ∧ tree.lookup location ≠ some .directory := by
  rw [target] at h
  cases hparse : parse text with
  | error fault => simp [hparse, bind, Except.bind] at h
  | ok path =>
      cases hwalk : tree.walk (tree.start path) path.names.dropLast with
      | error fault => simp [hparse, hwalk, bind, Except.bind] at h
      | ok directory =>
          simp only [hparse, hwalk, bind, Except.bind, throw, throwThe, MonadExceptOf.throw, pure,
            Except.pure] at h
          by_cases hdirectory : tree.lookup directory = some .directory
          · cases hname : path.names.getLast? with
            | none => simp [hdirectory, hname] at h
            | some name =>
                by_cases hlast : path.endsInSlash = true ∨ name = "." ∨ name = ".."
                · simp [hdirectory, hname, hlast] at h
                · by_cases hlong : nameLimit < name.utf8ByteSize
                  · simp [hdirectory, hname, hlast, hlong] at h
                  · by_cases hplace : tree.lookup (directory ++ [name]) = some .directory
                    · simp [hdirectory, hname, hlast, hlong, hplace] at h
                    · simp only [hdirectory, hname, hlast, hlong, hplace, ne_eq, not_true_eq_false,
                        ↓reduceIte, Except.ok.injEq] at h
                      simp only [not_or, Bool.not_eq_true] at hlast
                      obtain ⟨hslash, hdot, hdots⟩ := hlast
                      exact ⟨path, directory, name, rfl, hwalk, hdirectory, hname, hslash, hdot,
                        hdots, hlong, h.symm, h ▸ hplace⟩
          · simp [hdirectory] at h

theorem names_eq {path : Path} (h : path.names.getLast? = some name) :
    path.names = path.names.dropLast ++ [name] := by
  obtain ⟨front, hfront⟩ := List.getLast?_eq_some_iff.mp h
  simp [hfront]

/-- Where a path is written and where it leads is the same place, before and after. -/
theorem find_of_target {text : String} (h : tree.target text = .ok location) :
    location ≠ [] ∧ tree.lookup location ≠ some .directory ∧
      (∀ found, tree.find text = .ok found → found = location) ∧
      (tree.insert location e).find text = .ok location := by
  obtain ⟨path, directory, name, hparse, hwalk, hdirectory, hname, hslash, hdot, hdots, hlong, rfl,
    hplace⟩ := target_cases h
  have hne : directory ++ [name] ≠ [] := by simp
  have hfind (tree : Tree) : tree.find text = (tree.walk (tree.start path)
      path.names.dropLast).bind fun next => tree.walk next [name] := by
    rw [← walk_append, ← names_eq hname]
    simp only [find, hparse, hslash, bind, Except.bind, Bool.false_eq_true, ↓reduceIte,
      List.append_nil]
  refine ⟨hne, hplace, ?_, ?_⟩
  · intro found hfound
    rw [hfind, hwalk] at hfound
    obtain ⟨_, middle, hstep, hend⟩ := walk_cons_ok hfound
    cases hend
    rw [step_of_name hdot hdots hlong] at hstep
    cases hl : tree.lookup (directory ++ [name]) with
    | none => simp [hl] at hstep
    | some old => simpa [hl] using hstep.symm
  · have hdir : directory ≠ directory ++ [name] := by simp
    rw [hfind]
    change ((tree.insert (directory ++ [name]) e).walk (tree.start path)
      path.names.dropLast).bind _ = _
    rw [walk_insert hne hplace hwalk]
    simp only [Except.bind, walk, bind, lookup_insert tree _ _ e hne, if_neg hdir, hdirectory,
      step_of_name hdot hdots hlong, ↓reduceIte]

end Tree

instance : Layout Tree where
  Place := Location
  find tree text := (tree.find text).toOption
  entry := Tree.lookup

instance : DecidableEq (Layout.Place Tree) := inferInstanceAs (DecidableEq Location)

theorem Tree.read_eq (tree : Tree) (text : String) : tree.read text =
    match tree.find text with
    | .error fault => .error fault
    | .ok location =>
      match tree.lookup location with
      | some (.file bytes) => .ok bytes
      | some .directory => .error .isDirectory
      | none => .error .missing := by
  rw [read]
  cases tree.find text with
  | error fault => rfl
  | ok location =>
      simp only [bind, Except.bind]
      cases tree.lookup location with
      | none => rfl
      | some e => cases e <;> rfl

theorem Tree.fileAt_eq (tree : Tree) (text : String) :
    Layout.fileAt tree text = (tree.read text).toOption := by
  rw [read_eq, Layout.fileAt]
  cases h : tree.find text with
  | error fault => simp [Layout.find, h, Except.toOption]
  | ok location =>
      simp only [Layout.find, Layout.entry, h, Except.toOption, Option.bind_some]
      cases tree.lookup location with
      | none => rfl
      | some e => cases e <;> rfl

theorem Tree.run_write (tree : Tree) (text : String) (bytes : Array UInt8) :
    Store.writeIn tree text bytes =
      match tree.write text bytes with
      | .error fault => (.error fault, tree)
      | .ok written => (.ok (), written) := by
  have hget : (get : StateM Tree Tree).run tree = (tree, tree) := rfl
  refine (Store.run_bind_of hget).trans ?_
  cases tree.write text bytes with
  | error fault => rfl
  | ok written => rfl

theorem Tree.written_insert {tree : Tree} {text : String} {location : Location}
    {bytes : Array UInt8} (h : tree.target text = .ok location) :
    Layout.Written tree (tree.insert location (.file bytes)) text bytes location := by
  obtain ⟨hne, hplace, hfound, hfind⟩ := Tree.find_of_target (e := .file bytes) h
  refine ⟨?_, ?_, hplace, ?_, ?_⟩
  · simp only [Layout.find, hfind, Except.toOption]
  · intro q hq
    cases hfindq : tree.find text with
    | error fault => simp [Layout.find, hfindq, Except.toOption] at hq
    | ok found =>
        simp only [Layout.find, hfindq, Except.toOption, Option.some.injEq] at hq
        exact hq ▸ hfound found hfindq
  · simp only [Layout.entry, lookup_insert tree _ _ _ hne, ↓reduceIte]
  · intro q hq
    simp only [Layout.entry, lookup_insert tree _ _ _ hne, if_neg hq]

instance : LawfulStore Tree where
  isFile_run tree text := by
    change (tree.isFile text, tree) = _
    rw [Tree.fileAt_eq, Tree.isFile]
    cases tree.read text with
    | error fault => rfl
    | ok bytes => rfl
  read_run tree text := by
    refine ⟨tree.read text, rfl, ?_⟩
    intro bytes h
    rw [Tree.fileAt_eq, h]
    rfl
  write_run tree text bytes := by
    rw [Tree.run_write]
    cases h : tree.target text with
    | error fault => exact .inl ⟨fault, by simp only [Tree.write, h, bind, Except.bind]⟩
    | ok location =>
        refine .inr ⟨tree.insert location (.file bytes), location, ?_, ?_⟩
        · simp only [Tree.write, h, bind, Except.bind, pure, Except.pure]
        · exact Tree.written_insert h

def Tree.single (name : String) (bytes : Array UInt8) : Tree :=
  (Tree.bare ["w"]).insert ["w", name] (.file bytes)

end FirmwareHeader.Files
