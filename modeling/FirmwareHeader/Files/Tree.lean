import FirmwareHeader.Files.Path
import FirmwareHeader.Files.Store

namespace FirmwareHeader.Files

inductive Entry
  | file (bytes : Array UInt8)
  | directory
deriving DecidableEq

abbrev Location := List String

structure Tree where
  entries : List (Location × Entry)
  here : Location
deriving DecidableEq

namespace Tree

/-- The root is always a directory. -/
def lookup (tree : Tree) (location : Location) : Option Entry :=
  if location = [] then some .directory else tree.entries.lookup location

def bare (here : Location) : Tree :=
  ⟨(List.range here.length).map fun i => (here.take (i + 1), .directory), here⟩

def insertAt (location : Location) (entry : Entry) :
    List (Location × Entry) → List (Location × Entry)
  | [] => [(location, entry)]
  | (l, e) :: rest =>
    if l = location then (l, entry) :: rest else (l, e) :: insertAt location entry rest

def insert (tree : Tree) (location : Location) (entry : Entry) : Tree :=
  { tree with entries := insertAt location entry tree.entries }

def nameLimit : Nat := 255

def pathLimit : Nat := 4095

/-- Takes one step from a directory. The root is its own parent. -/
def step (tree : Tree) (location : Location) (name : String) : Except Fault Location :=
  if name = "." then .ok location
  else if name = ".." then .ok location.dropLast
  else if nameLimit < name.utf8ByteSize then .error .nameTooLong
  else match tree.lookup (location ++ [name]) with
    | none => .error .missing
    | some _ => .ok (location ++ [name])

def walk (tree : Tree) (location : Location) : List String → Except Fault Location
  | [] => .ok location
  | name :: names =>
    match tree.lookup location with
    | none => .error .missing
    | some (.file _) => .error .notDirectory
    | some .directory => do tree.walk (← tree.step location name) names

def parse (text : String) : Except Fault Path :=
  if '\x00' ∈ text.toList then .error .nulInPath
  else if text = "" then .error .missing
  else if pathLimit < text.utf8ByteSize then .error .nameTooLong
  else .ok (Path.ofString text)

def start (tree : Tree) (path : Path) : Location := if path.absolute then [] else tree.here

/-- The entry that a path leads to. Behind a slash there is nothing but directories. -/
def find (tree : Tree) (text : String) : Except Fault Location := do
  let path ← parse text
  tree.walk (tree.start path) (path.names ++ if path.endsInSlash then ["."] else [])

def read (tree : Tree) (text : String) : Except Fault (Array UInt8) := do
  match tree.lookup (← tree.find text) with
  | some (.file bytes) => return bytes
  | some .directory => throw .isDirectory
  | none => throw .missing

def isFile (tree : Tree) (text : String) : Bool := (tree.read text).isOk

/-- The place for a file that is to be written. Only its directory has to exist. -/
def target (tree : Tree) (text : String) : Except Fault Location := do
  let path ← parse text
  let directory ← tree.walk (tree.start path) path.names.dropLast
  if tree.lookup directory ≠ some .directory then throw .notDirectory
  match path.names.getLast? with
  | none => throw .isDirectory
  | some name =>
    if path.endsInSlash ∨ name = "." ∨ name = ".." then throw .isDirectory
    if nameLimit < name.utf8ByteSize then throw .nameTooLong
    let location := directory ++ [name]
    if tree.lookup location = some .directory then throw .isDirectory
    return location

def write (tree : Tree) (text : String) (bytes : Array UInt8) : Except Fault Tree := do
  return tree.insert (← tree.target text) (.file bytes)

theorem lookup_insertAt (location l : Location) (entry : Entry)
    (entries : List (Location × Entry)) :
    (insertAt location entry entries).lookup l =
      if l = location then some entry else entries.lookup l := by
  induction entries with
  | nil =>
    by_cases h : l = location
    · simp [insertAt, h]
    · simp [insertAt, List.lookup_cons, beq_false_of_ne h, h]
  | cons e rest ih =>
    obtain ⟨k, e⟩ := e
    by_cases hk : k = location
    · subst hk
      by_cases h : l = k
      · simp [insertAt, h]
      · simp [insertAt, List.lookup_cons, beq_false_of_ne h, h]
    · by_cases h : l = k
      · subst h
        simp [insertAt, hk]
      · simp [insertAt, List.lookup_cons, beq_false_of_ne h, hk, ih]

theorem lookup_insert (tree : Tree) (location l : Location) (entry : Entry) (h : location ≠ []) :
    (tree.insert location entry).lookup l =
      if l = location then some entry else tree.lookup l := by
  by_cases hl : l = []
  · subst hl
    simp [lookup, Ne.symm h]
  · simp [lookup, insert, hl, lookup_insertAt]

end Tree

instance : Store (StateM Tree) where
  isFile path := return (← get).isFile path
  read path := return (← get).read path
  write path bytes := do
    match (← get).write path bytes with
    | .ok tree => set tree; return .ok ()
    | .error fault => return .error fault

end FirmwareHeader.Files
