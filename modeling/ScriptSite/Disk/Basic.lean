import ScriptSite.Disk.Path
import ScriptSite.Text.Utf8

/-!
# Disks

A disk holds files, directories and symbolic links. An entry is addressed by the names of the
directories from the root down and its own name; the root is a directory and has no names. Every
entry but the root is listed with its address, and no address is listed twice.

The user can be denied to read a file or to list a directory, and to write to a file. Of what else a
disk records about its entries nothing is kept. All of them belong to the user, who can follow every
name in a directory and make new ones there. No file has two addresses, names are texts, there is
room for everything, and nobody else is at work.
-/

namespace ScriptSite

/-- What stands at an address. -/
inductive Entry
  | file (bytes : Bytes)
  | directory
  /-- A symbolic link with the text of its target. -/
  | link (target : Text)
  /-- A file that can be opened but neither read nor written. -/
  | unreadable
  deriving DecidableEq, Repr

/-- The names from the root down. -/
abbrev Address := List Text

/-- What the user does with an entry: listing a directory counts as reading it. -/
inductive Access
  | reading
  | writing
  deriving DecidableEq, Repr

/-- A disk as a program meets it. -/
structure Disk where
  /-- The entries with their addresses. -/
  entries : List (Address × Entry) := []
  /-- The current directory. -/
  current : Address := []
  /-- What the user is denied. -/
  denied : List (Address × Access) := []
  /-- How many directories inside each other are entered below a directory that is copied before the
  program gives up. -/
  reach : Nat := 490
  deriving Repr

namespace Disk

/-- What stands at an address. -/
def get? (disk : Disk) (address : Address) : Option Entry :=
  if address = [] then some .directory else disk.entries.lookup address

def setIn (address : Address) (entry : Entry) : List (Address × Entry) → List (Address × Entry)
  | [] => [(address, entry)]
  | (key, old) :: rest =>
    if key = address then (key, entry) :: rest else (key, old) :: setIn address entry rest

/-- Whether the user is denied something with the entry at an address. -/
def denies (disk : Disk) (access : Access) (address : Address) : Bool :=
  disk.denied.contains (address, access)

/-- What is denied of the entries that are not at an address. -/
def deniedElsewhere (disk : Disk) (address : Address) : List (Address × Access) :=
  disk.denied.filter (·.1 ≠ address)

/-- The disk with an entry at an address. Nothing is denied of an entry that is new there. -/
def set (disk : Disk) (address : Address) (entry : Entry) : Disk :=
  { disk with
    entries := setIn address entry disk.entries
    denied := if disk.get? address = none then disk.deniedElsewhere address else disk.denied }

/-- The name of an entry of a directory, given the address of the entry. -/
def nameIn? (directory key : Address) : Option Text :=
  if key.length = directory.length + 1 ∧ directory.isPrefixOf key then key.getLast? else none

def names (disk : Disk) (directory : Address) : List Text :=
  disk.entries.filterMap fun (key, _) => nameIn? directory key

/-- The names in a directory in the order of their characters. -/
def sortedNames (disk : Disk) (directory : Address) : List Text :=
  (disk.names directory).mergeSort Text.le

theorem lookup_setIn_self (address : Address) (entry : Entry) (entries : List (Address × Entry)) :
    (setIn address entry entries).lookup address = some entry := by
  induction entries with
  | nil => simp [setIn]
  | cons first rest ih =>
    obtain ⟨key, old⟩ := first
    by_cases same : key = address
    · simp [setIn, same]
    · simp [setIn, same, List.lookup_cons, ih, beq_false_of_ne (Ne.symm same)]

theorem lookup_setIn_of_ne {address other : Address} (different : other ≠ address) (entry : Entry)
    (entries : List (Address × Entry)) :
    (setIn address entry entries).lookup other = entries.lookup other := by
  induction entries with
  | nil => simp [setIn, List.lookup_cons, beq_false_of_ne different]
  | cons first rest ih =>
    obtain ⟨key, old⟩ := first
    by_cases same : key = address
    · subst same
      simp [setIn, List.lookup_cons, beq_false_of_ne different]
    · simp only [setIn, same, if_false, List.lookup_cons, ih]

@[simp]
theorem get?_set_self {address : Address} (inside : address ≠ []) (disk : Disk) (entry : Entry) :
    (disk.set address entry).get? address = some entry := by
  simp [get?, set, inside, lookup_setIn_self]

theorem get?_set_of_ne {address other : Address} (different : other ≠ address) (disk : Disk)
    (entry : Entry) : (disk.set address entry).get? other = disk.get? other := by
  by_cases root : other = []
  · simp [get?, root]
  · simp [get?, set, root, lookup_setIn_of_ne different]

theorem denies_deniedElsewhere_of_ne {address other : Address} (different : other ≠ address)
    (disk : Disk) (access : Access) :
    (disk.deniedElsewhere address).contains (other, access) = disk.denies access other := by
  simp [deniedElsewhere, denies, different]

theorem denies_set_of_ne {address other : Address} (different : other ≠ address) (disk : Disk)
    (entry : Entry) (access : Access) :
    (disk.set address entry).denies access other = disk.denies access other := by
  rw [denies, set]
  split
  · exact denies_deniedElsewhere_of_ne different disk access
  · rfl

/-- Nothing is denied of what is new. -/
theorem denies_set_self {address : Address} {disk : Disk} (absent : disk.get? address = none)
    (entry : Entry) (access : Access) : (disk.set address entry).denies access address = false := by
  simp [denies, set, deniedElsewhere, absent]

theorem denied_set_of_get? {address : Address} {disk : Disk} (there : disk.get? address ≠ none)
    (entry : Entry) : (disk.set address entry).denied = disk.denied := by
  simp [set, there]

end Disk

end ScriptSite
