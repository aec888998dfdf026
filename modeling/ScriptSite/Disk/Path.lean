import ScriptSite.Text.Basic

/-!
# Paths

A path is a list of names, from the root of the disk or from the current directory. Repeated slashes
and single dots mean nothing and are not kept; two dots are a name like any other, because what they
mean depends on the links on the way. Two slashes in front are told from one.
-/

namespace ScriptSite

/-- A path with the number of slashes in front of its names, which is zero for a path that starts at
the current directory. -/
structure Path where
  slashes : Nat := 0
  names : List Text := []
  deriving DecidableEq, Repr

namespace Path

/-- The name of the directory above. -/
def upName : Text :=
  ['.', '.']

/-- Whether a piece between slashes is a name. -/
def isName (piece : Text) : Bool :=
  !piece.isEmpty && piece ≠ ['.']

def ofText (text : Text) : Path where
  slashes :=
    match (text.takeWhile (· == '/')).length with
    | 0 => 0
    | 2 => 2
    | _ => 1
  names := (Text.splitWhere (· == '/') text).filter isName

def toText (path : Path) : Text :=
  if path.slashes = 0 ∧ path.names.isEmpty then ['.']
  else List.replicate path.slashes '/' ++ Text.joinWith ['/'] path.names

/-- Whether a path starts at the root of the disk. -/
def isAbsolute (path : Path) : Bool :=
  path.slashes != 0

/-- The path `other`, starting at `path` if it does not start at the root. -/
def join (path other : Path) : Path :=
  if other.isAbsolute then other else { path with names := path.names ++ other.names }

/-- The path of an entry of a directory. -/
def child (path : Path) (name : Text) : Path :=
  { path with names := path.names ++ [name] }

/-- The path without its last name. -/
def parent (path : Path) : Path :=
  { path with names := path.names.dropLast }

/-- The last name, which is empty if there is none. -/
def name (path : Path) : Text :=
  path.names.getLast?.getD []

/-- The last dot of a name and what follows it, if there is something before it and something behind
it. -/
def extension (name : Text) : Text :=
  let tail := (name.reverse.takeWhile (· ≠ '.')).reverse
  let stem := name.take (name.length - tail.length - 1)
  if tail.isEmpty ∨ stem.isEmpty ∨ !name.contains '.' then [] else '.' :: tail

/-- The path with the extension of its last name replaced; a path without names has none. -/
def withExtension? (path : Path) (extension' : Text) : Option Path :=
  match path.names.getLast? with
  | none => none
  | some last =>
    let stem := last.take (last.length - (extension last).length)
    some { path with names := path.names.dropLast ++ [stem ++ extension'] }

/-- What is left of a list behind `start`, if it begins with `start`. -/
def namesBehind? : (start names : List Text) → Option (List Text)
  | [], names => some names
  | _ :: _, [] => none
  | s :: start, n :: names => if s = n then namesBehind? start names else none

/-- The way from `base` down to a path, if the path leads through it. -/
def below? (path base : Path) : Option Path :=
  if path.slashes = base.slashes then
    (namesBehind? base.names path.names).map fun names => { names }
  else none

/-- The names without two dots, each pair of which takes away the name before them. -/
def withoutUps (names : List Text) : List Text :=
  names.foldl (fun done name => if name = upName then done.dropLast else done ++ [name]) []

/-- The names that lead from a directory to a path, both given from the root of the disk: up to the
last directory on both ways, and down from there. -/
def wayBetween : (start target : List Text) → List Text
  | s :: start, t :: target =>
    if s = t then wayBetween start target
    else List.replicate (start.length + 1) upName ++ (t :: target)
  | start, target => List.replicate start.length upName ++ target

/-- The way from `start` to a path, which both start at the root. -/
def relativeTo (path start : Path) : Path :=
  { names := wayBetween (withoutUps start.names) (withoutUps path.names) }

@[simp]
theorem names_child (path : Path) (name : Text) : (path.child name).names = path.names ++ [name] :=
  rfl

@[simp]
theorem parent_child (path : Path) (name : Text) : (path.child name).parent = path := by
  simp [child, parent]

theorem namesBehind?_eq_some_iff {start names rest : List Text} :
    namesBehind? start names = some rest ↔ names = start ++ rest := by
  induction start generalizing names with
  | nil => simp [namesBehind?, eq_comm]
  | cons s start ih =>
    cases names with
    | nil => simp [namesBehind?]
    | cons n names =>
      by_cases same : s = n
      · subst same
        simp [namesBehind?, ih]
      · simp [namesBehind?, same, Ne.symm same]

end Path

end ScriptSite
