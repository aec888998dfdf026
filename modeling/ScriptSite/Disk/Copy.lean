import ScriptSite.Disk.Access
import ScriptSite.Text.Quoted

/-!
# Copies

Files are copied by their bytes, and directories with all that is below them. What the user is
denied of a file or a directory is then denied of its copy, and nothing else. A copy goes into a
directory that stands in its place. Copying a directory goes on after a failure, and in the end
tells all failures together; only where too many directories are inside each other it gives up.
-/

namespace ScriptSite

/-- One of the failures of copying a directory. -/
inductive CopyTrouble
  /-- A copy failed for a reason. -/
  | failed (source target : Path) (reason : Text)
  /-- A character of the words for a failure that was told without its paths. -/
  | letter (c : Char)
  deriving DecidableEq, Repr

/-- A trouble as it stands in a list. -/
def CopyTrouble.shown : CopyTrouble → Text
  | .failed source target reason =>
    '(' :: Text.joinWith [',', ' '] [Text.quoted source.toText, Text.quoted target.toText,
      Text.quoted reason] ++ [')']
  | .letter c => Text.quoted [c]

/-- Why a copy fails. -/
inductive CopyError
  /-- The disk refuses, perhaps to use a certain path. -/
  | refused (error : DiskError) (path : Option Path)
  /-- Source and target, as they are shown, are one file. -/
  | sameFile (source target : Text)
  | several (troubles : List CopyTrouble)
  | unnameable
  /-- Too many directories are inside each other. -/
  | tooDeep
  deriving DecidableEq, Repr

namespace CopyError

/-- All that is to tell about a failure. -/
def message : CopyError → Text
  | .refused error path =>
    "[Errno ".toList ++ Text.ofNat error.number ++ "] ".toList ++ error.message ++
      (match path with
        | some path => ": ".toList ++ Text.quoted path.toText
        | none => [])
  | .sameFile source target => source ++ " and ".toList ++ target ++ " are the same file".toList
  | .several troubles =>
    '[' :: Text.joinWith [',', ' '] (troubles.map CopyTrouble.shown) ++ [']']
  | .unnameable => "embedded null byte".toList
  | .tooDeep => "maximum recursion depth exceeded".toList

/-- The reason of a failure, without the path if the disk refused. -/
def reason : CopyError → Text
  | .refused error _ => error.message
  | error => error.message

def ofFault (path : Path) : DiskFault → CopyError
  | .refused error => .refused error (some path)
  | .unnameable => .unnameable

end CopyError

/-- A path as it is shown among other values. -/
def Path.shown (path : Path) : Text :=
  "PosixPath(".toList ++ Text.quoted path.toText ++ [')']

namespace Disk

/-- Whether two paths lead to one file. -/
def areSame (disk : Disk) (left right : Path) : Bool :=
  match disk.find left, disk.find right with
  | .ok (l, _), .ok (r, _) => l = r
  | _, _ => false

def atPath {α : Type} (path : Path) (action : DiskAction DiskFault α) : DiskAction CopyError α :=
  ExceptT.adapt (CopyError.ofFault path) action

/-- Opens a file for reading: gives its bytes, or nothing if reading it will fail. -/
def openFile (path : Path) : DiskAction DiskFault (Option Bytes) := do
  match (← get).findReadable path with
  | .ok (_, .file bytes) => return some bytes
  | .ok (_, .directory) => throw (.refused .isDirectory)
  | .ok _ => return none
  | .error fault => throw fault

/-- Copies a file to a path, into the directory there if there is one. `show` shows the source and
`showTarget` the target in messages; the target in a directory is shown as a plain text. -/
def copyFileWith (shown : Text) (showTarget : Path → Text) (source target : Path) :
    DiskAction CopyError Unit := do
  let disk ← get
  let inside := disk.find target matches .ok (_, .directory)
  let final := if inside then target.child source.name else target
  if disk.areSame source final then
    throw (.sameFile shown (if inside then Text.quoted final.toText else showTarget final))
  else
    let bytes? ← atPath source (openFile source)
    atPath final (writeFile final (bytes?.getD []))
    if bytes?.isNone then throw (.refused .inputOutput none)
    modify (·.copyRights source final)

def copyFile (source target : Path) : DiskAction CopyError Unit :=
  copyFileWith source.shown Path.shown source target

/-- An entry of a directory as it is shown. -/
def shownEntry (name : Text) : Text :=
  "<DirEntry ".toList ++ Text.quoted name ++ ['>']

/-- The troubles of a copy inside a directory that failed. -/
def troublesOf (source target : Path) : CopyError → List CopyTrouble
  | .several troubles => troubles
  | .sameFile shown other => (CopyError.sameFile shown other).message.map .letter
  | error => [.failed source target error.message]

/-- Copies the entries with the given names with `copy`, which gets the source, the target and the
name. Gives the troubles, unless a copy gives up. -/
def copyEntries (copy : Path → Path → Text → DiskAction CopyError Unit) (source target : Path) :
    List Text → DiskAction CopyError (List CopyTrouble)
  | [] => return []
  | name :: rest => do
    let troubles ←
      try
        copy (source.child name) (target.child name) name
        pure []
      catch error =>
        if error = .tooDeep then throw error
        else pure (troublesOf (source.child name) (target.child name) error)
    return troubles ++ (← copyEntries copy source target rest)

/-- Copies a directory, where fewer than `depth` directories inside each other can be entered below
it. -/
def copyDirectory : (depth : Nat) → (source target : Path) → DiskAction CopyError Unit
  | 0, _, _ => throw .tooDeep
  | depth + 1, source, target => do
    let names ← atPath source (list source)
    atPath target (ensureDirectory target)
    let copy (source target : Path) (name : Text) : DiskAction CopyError Unit := do
      match (← get).find source with
      | .ok (_, .directory) => copyDirectory depth source target
      | .ok _ | .error (.refused .noEntry) =>
        copyFileWith (shownEntry name) (fun path => Text.quoted path.toText) source target
      | .error fault => throw (CopyError.ofFault source fault)
    let troubles ← copyEntries copy source target names
    modify (·.copyRights source target)
    if !troubles.isEmpty then throw (.several troubles)

/-- Copies a directory with all that is below it to a path. -/
def copyTree (source target : Path) : DiskAction CopyError Unit := do
  copyDirectory ((← get).reach + 1) source target

end Disk

end ScriptSite
