import ScriptSite.Disk.Walk

/-!
# Reading and writing

Operations on a disk. Each of them can fail, and what has been done before it fails stays done.
-/

namespace ScriptSite

/-- An operation on a disk that can fail with a fault of the kind `ε`. -/
abbrev DiskAction (ε α : Type) := ExceptT ε (StateM Disk) α

/-- A fault of the disk at a path. -/
structure PathFault where
  path : Path
  fault : DiskFault
  deriving DecidableEq, Repr

namespace Disk

/-- The entry that a path leads to, if it may be read, and its address. -/
def findReadable (disk : Disk) (path : Path) : Except DiskFault (Address × Entry) :=
  match disk.find path with
  | .ok (address, entry) =>
    if disk.denies .reading address then .error (.refused .permissionDenied)
    else .ok (address, entry)
  | .error fault => .error fault

theorem findReadable_eq_ok_iff {disk : Disk} {path : Path} {address : Address} {entry : Entry} :
    disk.findReadable path = .ok (address, entry) ↔
      disk.find path = .ok (address, entry) ∧ disk.denies .reading address = false := by
  rw [findReadable]
  rcases disk.find path with fault | ⟨there, other⟩
  · simp
  · simp only [Except.ok.injEq, Prod.mk.injEq]
    constructor
    · intro found
      split at found
      · cases found
      · rename_i allowed
        cases found
        exact ⟨⟨rfl, rfl⟩, Bool.eq_false_iff.mpr allowed⟩
    · rintro ⟨⟨rfl, rfl⟩, allowed⟩
      simp [allowed]

theorem find_of_findReadable {disk : Disk} {path : Path} {address : Address} {entry : Entry}
    (found : disk.findReadable path = .ok (address, entry)) :
    disk.find path = .ok (address, entry) :=
  (findReadable_eq_ok_iff.mp found).1

/-- What may be read at a path depends on what the path finds and on what is denied of that. -/
theorem findReadable_congr {before after : Disk} {path : Path}
    (same : after.find path = before.find path)
    (denies : ∀ address entry, before.find path = .ok (address, entry) →
      after.denies .reading address = before.denies .reading address) :
    after.findReadable path = before.findReadable path := by
  rw [findReadable, findReadable, same]
  rcases found : before.find path with fault | ⟨address, entry⟩
  · rfl
  · simp only [denies address entry found]

/-- The bytes of the file that a path leads to. -/
def readFile (path : Path) : DiskAction DiskFault Bytes := do
  match (← get).findReadable path with
  | .ok (_, .file bytes) => return bytes
  | .ok (_, .directory) => throw (.refused .isDirectory)
  | .ok _ => throw (.refused .inputOutput)
  | .error fault => throw fault

/-- Makes the bytes those of the file that a path leads to; the file is made if there is none. -/
def writeFile (path : Path) (bytes : Bytes) : DiskAction DiskFault Unit := do
  let disk ← get
  match disk.locate true path with
  | .ok (.found address (.file _)) =>
    if disk.denies .writing address then throw (.refused .permissionDenied)
    else modify (·.set address (.file bytes))
  | .ok (.found _ .directory) => throw (.refused .isDirectory)
  | .ok (.found _ _) => throw (.refused .inputOutput)
  | .ok (.vacant directory name) => modify (·.set (directory ++ [name]) (.file bytes))
  | .error fault => throw fault

def makeDirectory (path : Path) : DiskAction DiskFault Unit := do
  match (← get).locate false path with
  | .ok (.found _ _) => throw (.refused .alreadyExists)
  | .ok (.vacant directory name) => modify (·.set (directory ++ [name]) .directory)
  | .error fault => throw fault

def ensureDirectory (path : Path) : DiskAction DiskFault Unit := do
  try makeDirectory path
  catch
    | .unnameable => throw .unnameable
    | .refused error =>
      if error = .noEntry then throw (.refused error)
      else
        match (← get).isDirectory path with
        | .ok true => return
        | .ok false => throw (.refused error)
        | .error error => throw (.refused error)

/-- Makes a directory unless there is one, and tells a fault with the path. -/
def ensureDirectoryAt (path : Path) : DiskAction PathFault Unit :=
  ExceptT.adapt (PathFault.mk path) (ensureDirectory path)

/-- Makes a directory and those above it, unless they are there. `names` holds the names of the path
in reverse order. -/
def ensureNames (slashes : Nat) : (names : List Text) → DiskAction PathFault Unit
  | [] => ensureDirectoryAt { slashes }
  | name :: above => do
    let path : Path := { slashes, names := (name :: above).reverse }
    try ensureDirectoryAt path
    catch fault =>
      if fault.fault = .refused .noEntry then do
        ensureNames slashes above
        ensureDirectoryAt path
      else throw fault

/-- Makes a directory and those above it, unless they are there. -/
def ensureDirectories (path : Path) : DiskAction PathFault Unit :=
  ensureNames path.slashes path.names.reverse

/-- The names in the directory that a path leads to, in the order of their characters. -/
def list (path : Path) : DiskAction DiskFault (List Text) := do
  let disk ← get
  match disk.find path with
  | .ok (address, .directory) =>
    if disk.denies .reading address then throw (.refused .permissionDenied)
    else return disk.sortedNames address
  | .ok _ => throw (.refused .notDirectory)
  | .error fault => throw fault

/-- What is denied once the entry that one path leads to has the rights of the entry that another
path leads to. -/
def deniedAsOf (disk : Disk) (source target : Path) : List (Address × Access) :=
  match disk.find source, disk.find target with
  | .ok (original, _), .ok (copy, _) =>
    disk.deniedElsewhere copy ++
      (disk.denied.filter (·.1 = original)).map fun (_, access) => (copy, access)
  | _, _ => disk.denied

/-- The disk with the rights of one entry copied to another one. -/
def copyRights (disk : Disk) (source target : Path) : Disk :=
  { disk with denied := disk.deniedAsOf source target }

@[simp]
theorem get?_copyRights (disk : Disk) (source target : Path) (address : Address) :
    (disk.copyRights source target).get? address = disk.get? address := rfl

theorem denies_copyRights_of_ne {disk : Disk} {source target : Path} {address : Address}
    (different : ∀ entry, disk.find target ≠ .ok (address, entry)) (access : Access) :
    (disk.copyRights source target).denies access address = disk.denies access address := by
  rw [denies, copyRights, deniedAsOf]
  split
  · rename_i original _ copy entry _ found
    have apart : address ≠ copy := by
      rintro rfl
      exact different entry found
    have notMapped : (address, access) ∉
        (disk.denied.filter (·.1 = original)).map fun (_, access) => (copy, access) := by
      simp [apart.symm]
    rw [← denies_deniedElsewhere_of_ne apart disk access]
    simp only [List.contains_eq_mem, List.mem_append, notMapped, or_false]
  · rfl

end Disk

end ScriptSite
