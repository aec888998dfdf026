import ScriptSite.Disk.Basic

/-!
# Finding the way

A path is followed name by name from the root or the current directory. Two dots lead back up, and a
symbolic link is replaced by its target, at the end of the path only if the last link is to be
followed. At most forty links are followed.
-/

namespace ScriptSite

/-- Why a disk refuses. -/
inductive DiskError
  | noEntry
  | inputOutput
  | permissionDenied
  | alreadyExists
  | notDirectory
  | isDirectory
  | nameTooLong
  | tooManyLinks
  deriving DecidableEq, Repr

namespace DiskError

def number : DiskError → Nat
  | .noEntry => 2
  | .inputOutput => 5
  | .permissionDenied => 13
  | .alreadyExists => 17
  | .notDirectory => 20
  | .isDirectory => 21
  | .nameTooLong => 36
  | .tooManyLinks => 40

def message : DiskError → Text
  | .noEntry => "No such file or directory".toList
  | .inputOutput => "Input/output error".toList
  | .permissionDenied => "Permission denied".toList
  | .alreadyExists => "File exists".toList
  | .notDirectory => "Not a directory".toList
  | .isDirectory => "Is a directory".toList
  | .nameTooLong => "File name too long".toList
  | .tooManyLinks => "Too many levels of symbolic links".toList

end DiskError

/-- Why a disk cannot be used: it refuses, or a path has a character that no name has. -/
inductive DiskFault
  | refused (error : DiskError)
  | unnameable
  deriving DecidableEq, Repr

/-- Where a path leads: to an entry, or to a free name in a directory. -/
inductive Place
  | found (address : Address) (entry : Entry)
  | vacant (directory : Address) (name : Text)
  deriving DecidableEq, Repr

namespace Disk

/-- The longest name in bytes. -/
def longestName : Nat := 255

/-- The longest path in bytes. -/
def longestPath : Nat := 4095

/-- Follows names from the directory `here`. `jump` goes on from a directory along the names of the
target of a link and those behind it. -/
def walkNames (disk : Disk) (followLast : Bool)
    (jump : Address → List Text → Except DiskError Place) :
    (here : Address) → (names : List Text) → Except DiskError Place
  | here, [] => .ok (.found here .directory)
  | here, name :: rest =>
    if name = Path.upName then walkNames disk followLast jump here.dropLast rest
    else if longestName < (Utf8.encode name).length then .error .nameTooLong
    else
      match disk.get? (here ++ [name]) with
      | none => if rest.isEmpty then .ok (.vacant here name) else .error .noEntry
      | some .directory => walkNames disk followLast jump (here ++ [name]) rest
      | some (.link target) =>
        if rest.isEmpty ∧ !followLast then .ok (.found (here ++ [name]) (.link target))
        else
          let path := Path.ofText target
          jump (if path.isAbsolute then [] else here) (path.names ++ rest)
      | some entry =>
        if rest.isEmpty then .ok (.found (here ++ [name]) entry) else .error .notDirectory

/-- Follows names across fewer than `links` symbolic links. -/
def walk (disk : Disk) (followLast : Bool) :
    (links : Nat) → (here : Address) → (names : List Text) → Except DiskError Place
  | 0, _, _ => .error .tooManyLinks
  | links + 1, here, names => walkNames disk followLast (walk disk followLast links) here names

/-- Where a path leads. -/
def locate (disk : Disk) (followLast : Bool) (path : Path) : Except DiskFault Place :=
  if path.names.any fun name => name.contains '\x00' then .error .unnameable
  else if longestPath < (Utf8.encode path.toText).length then .error (.refused .nameTooLong)
  else
    match disk.walk followLast 41 (if path.isAbsolute then [] else disk.current) path.names with
    | .ok place => .ok place
    | .error error => .error (.refused error)

/-- The entry that a path leads to, and its address; the last link is followed. -/
def find (disk : Disk) (path : Path) : Except DiskFault (Address × Entry) :=
  match disk.locate true path with
  | .ok (.found address entry) => .ok (address, entry)
  | .ok (.vacant _ _) => .error (.refused .noEntry)
  | .error fault => .error fault

/-- Whether a path leads to an entry of the class `p`. A path that leads nowhere does not; only a
name that is too long is an error. -/
def test (disk : Disk) (p : Entry → Bool) (path : Path) : Except DiskError Bool :=
  match disk.find path with
  | .ok (_, entry) => .ok (p entry)
  | .error (.refused .nameTooLong) => .error .nameTooLong
  | .error _ => .ok false

def isDirectory (disk : Disk) (path : Path) : Except DiskError Bool :=
  disk.test (· = .directory) path

def isFileEntry : Entry → Bool
  | .file _ | .unreadable => true
  | _ => false

def isFile (disk : Disk) (path : Path) : Except DiskError Bool :=
  disk.test isFileEntry path

end Disk

end ScriptSite
