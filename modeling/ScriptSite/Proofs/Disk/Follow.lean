import ScriptSite.Disk.Walk

/-!
# Paths on a disk without links

Without symbolic links a path is followed name by name. `Leads` is the relation between the names of
a path and the place they lead to; `locate_eq_ok_iff` and `find_eq_ok_iff` say that it is all there
is to finding a place, but for paths that are too long or have a character that no name has.

Names lead along each other: a list of names leads on from the directory that the names before it
lead to (`Leads.append`, `Leads.exists_of_append`). What they lead to stays there as long as
directories stay directories (`Leads.mono`, `Leads.of_get?`).
-/

namespace ScriptSite

namespace Path

/-- Whether a path can be used at all: it is not too long, and no name in it has a character that no
name has. -/
structure IsUsable (path : Path) : Prop where
  nameable : (path.names.any fun name => name.contains '\x00') = false
  short : (Utf8.encode path.toText).length ≤ Disk.longestPath

/-- Whether a name leads to an entry of the directory it is followed from. -/
structure IsStep (name : Text) : Prop where
  ne_up : name ≠ upName
  short : (Utf8.encode name).length ≤ Disk.longestName

end Path

/-- The address of an entry, or the one that it would get. -/
def Place.address : Place → Address
  | .found address _ => address
  | .vacant directory name => directory ++ [name]

/-- What stands at a place. -/
def Place.entry? : Place → Option Entry
  | .found _ entry => some entry
  | .vacant _ _ => none

/-- A place that is free or a file is no directory. -/
theorem Place.ne_directory {place : Place}
    (replaces : place.entry? = none ∨ ∃ old, place.entry? = some (.file old)) (address : Address) :
    place ≠ .found address .directory := by
  rintro rfl
  simp [Place.entry?] at replaces

namespace Disk

variable {disk before after : Disk} {path : Path} {here address : Address}
  {names front back : List Text} {name : Text} {place other : Place} {entry : Entry}

/-- Where names lead depends on what stands at addresses only. -/
theorem walk_congr {other : Disk} (same : ∀ address, other.get? address = disk.get? address)
    (followLast : Bool) (links : Nat) :
    other.walk followLast links = disk.walk followLast links := by
  have step : ∀ jump here names,
      other.walkNames followLast jump here names = disk.walkNames followLast jump here names := by
    intro jump here names
    induction names generalizing here with
    | nil => rfl
    | cons name names ih => simp only [walkNames, same, ih]
  induction links with
  | zero => rfl
  | succ links ih =>
      funext here names
      rw [walk, walk, ih, step]

theorem find_congr {other : Disk} (current_eq : other.current = disk.current)
    (same : ∀ address, other.get? address = disk.get? address) (path : Path) :
    other.find path = disk.find path := by
  simp only [find, locate, walk_congr same, current_eq]

/-- Whether a disk has no symbolic links. -/
def Linkless (disk : Disk) : Prop :=
  ∀ address target, disk.get? address ≠ some (.link target)

theorem linkless_of_entries (notLink : ∀ address target, (address, .link target) ∉ disk.entries) :
    disk.Linkless := by
  intro address target found
  rw [get?] at found
  split at found
  · simp at found
  · rcases List.lookup_eq_some_iff.mp found with ⟨front, back, entries, _⟩
    exact notLink address target (by simp [entries])

/-- Where names lead from a directory, if no link is on the way. -/
inductive Leads (disk : Disk) : Address → List Text → Place → Prop
  | arrived {here : Address} : Leads disk here [] (.found here .directory)
  | up {here : Address} {names : List Text} {place : Place}
      (rest : Leads disk here.dropLast names place) : Leads disk here (Path.upName :: names) place
  | enter {here : Address} {name : Text} {names : List Text} {place : Place}
      (step : Path.IsStep name) (found : disk.get? (here ++ [name]) = some .directory)
      (rest : Leads disk (here ++ [name]) names place) : Leads disk here (name :: names) place
  | entry {here : Address} {name : Text} {entry : Entry} (step : Path.IsStep name)
      (found : disk.get? (here ++ [name]) = some entry) (other : entry ≠ .directory) :
      Leads disk here [name] (.found (here ++ [name]) entry)
  | vacant {here : Address} {name : Text} (step : Path.IsStep name)
      (absent : disk.get? (here ++ [name]) = none) : Leads disk here [name] (.vacant here name)

/-- The directory that a path starts at. -/
def start (disk : Disk) (path : Path) : Address :=
  if path.isAbsolute then [] else disk.current

/-- Whether a path leads to a place. -/
def LeadsTo (disk : Disk) (path : Path) (place : Place) : Prop :=
  disk.Leads (disk.start path) path.names place

theorem leads_of_walkNames (linkless : disk.Linkless) {followLast : Bool}
    {jump : Address → List Text → Except DiskError Place}
    (walked : disk.walkNames followLast jump here names = .ok place) :
    disk.Leads here names place := by
  induction names generalizing here with
  | nil =>
      simp only [walkNames, Except.ok.injEq] at walked
      rw [← walked]
      exact .arrived
  | cons name names ih =>
      rw [walkNames] at walked
      split at walked
      · rename_i up
        rw [up]
        exact .up (ih walked)
      · rename_i notUp
        split at walked
        · simp at walked
        · rename_i notLong
          have step : Path.IsStep name := ⟨notUp, Nat.not_lt.mp notLong⟩
          split at walked
          · rename_i absent
            cases names with
            | nil =>
                simp only [List.isEmpty_nil, if_true, Except.ok.injEq] at walked
                rw [← walked]
                exact .vacant step absent
            | cons => simp at walked
          · rename_i found
            exact .enter step found (ih walked)
          · rename_i target found
            exact absurd found (linkless _ target)
          · rename_i entry notDirectory _ found
            cases names with
            | nil =>
                simp only [List.isEmpty_nil, if_true, Except.ok.injEq] at walked
                rw [← walked]
                exact .entry step found notDirectory
            | cons => simp at walked

theorem Leads.walkNames (linkless : disk.Linkless) (followLast : Bool)
    (jump : Address → List Text → Except DiskError Place) (leads : disk.Leads here names place) :
    disk.walkNames followLast jump here names = .ok place := by
  induction leads with
  | arrived => rfl
  | up _ ih => simpa [Disk.walkNames] using ih
  | enter step found _ ih =>
      simpa [Disk.walkNames, step.ne_up, Nat.not_lt.mpr step.short, found] using ih
  | @entry here name entry step found notDirectory =>
      rw [Disk.walkNames, if_neg step.ne_up, if_neg (Nat.not_lt.mpr step.short), found]
      cases entry with
      | file bytes => rfl
      | directory => exact absurd rfl notDirectory
      | link target => exact absurd found (linkless _ target)
      | unreadable => rfl
  | vacant step absent =>
      simp [Disk.walkNames, step.ne_up, Nat.not_lt.mpr step.short, absent]

/-- On a disk without links a path is located exactly where its names lead, if it can be used. -/
theorem locate_eq_ok_iff (linkless : disk.Linkless) (followLast : Bool) :
    disk.locate followLast path = .ok place ↔ path.IsUsable ∧ disk.LeadsTo path place := by
  constructor
  · intro located
    rw [locate] at located
    split at located
    · simp at located
    · rename_i nameable
      split at located
      · simp at located
      · rename_i notLong
        split at located
        · rename_i walked
          simp only [Except.ok.injEq] at located
          subst located
          have usable : path.IsUsable := ⟨by simpa using nameable, Nat.not_lt.mp notLong⟩
          exact ⟨usable, leads_of_walkNames linkless walked⟩
        · simp at located
  · rintro ⟨usable, leads⟩
    have walked : disk.walk followLast 41 (disk.start path) path.names = .ok place :=
      leads.walkNames linkless followLast _
    rw [start] at walked
    rw [locate, usable.nameable, if_neg (by simp), if_neg (Nat.not_lt.mpr usable.short), walked]

/-- On a disk without links a path finds exactly the entry that its names lead to. -/
theorem find_eq_ok_iff (linkless : disk.Linkless) :
    disk.find path = .ok (address, entry) ↔
      path.IsUsable ∧ disk.LeadsTo path (.found address entry) := by
  rw [← locate_eq_ok_iff linkless true, find]
  split
  · rename_i located
    simp [located]
  · rename_i located
    simp [located]
  · rename_i located
    simp [located]

theorem test_eq_true_iff {p : Entry → Bool} :
    disk.test p path = .ok true ↔
      ∃ address entry, disk.find path = .ok (address, entry) ∧ p entry = true := by
  rw [test]
  split
  · rename_i found
    simp [found, and_assoc]
  · rename_i refused
    simp [refused]
  · rename_i refused
    simp [refused]

theorem isDirectory_eq_true_iff :
    disk.isDirectory path = .ok true ↔ ∃ address, disk.find path = .ok (address, .directory) := by
  simp [isDirectory, test_eq_true_iff]

/-- Names lead to one place. -/
theorem Leads.unique (leads : disk.Leads here names place) (too : disk.Leads here names other) :
    place = other := by
  induction leads with
  | arrived =>
      cases too with
      | arrived => rfl
  | up _ ih =>
      cases too with
      | up rest => exact ih rest
      | enter step => exact absurd rfl step.ne_up
      | entry step => exact absurd rfl step.ne_up
      | vacant step => exact absurd rfl step.ne_up
  | enter step found _ ih =>
      cases too with
      | up => exact absurd rfl step.ne_up
      | enter _ _ rest => exact ih rest
      | entry _ found' other =>
          rw [found, Option.some.injEq] at found'
          exact absurd found'.symm other
      | vacant _ absent => simp [found] at absent
  | entry step found notDirectory =>
      cases too with
      | up => exact absurd rfl step.ne_up
      | enter _ found' =>
          rw [found, Option.some.injEq] at found'
          exact absurd found' notDirectory
      | entry _ found' =>
          rw [found, Option.some.injEq] at found'
          rw [found']
      | vacant _ absent => simp [found] at absent
  | vacant step absent =>
      cases too with
      | up => exact absurd rfl step.ne_up
      | enter _ found => simp [absent] at found
      | entry _ found => simp [absent] at found
      | vacant => rfl

/-- Induction on names that lead to a directory: every place on the way is a directory too. -/
@[elab_as_elim]
theorem Leads.directory_induction
    {motive : ∀ here names, disk.Leads here names (.found address .directory) → Prop}
    (arrived : motive address [] .arrived)
    (up : ∀ {here names} (rest : disk.Leads here.dropLast names (.found address .directory)),
      motive here.dropLast names rest → motive here (Path.upName :: names) (.up rest))
    (enter : ∀ {here name names} (step : Path.IsStep name)
      (found : disk.get? (here ++ [name]) = some .directory)
      (rest : disk.Leads (here ++ [name]) names (.found address .directory)),
      motive (here ++ [name]) names rest → motive here (name :: names) (.enter step found rest))
    {here : Address} {names : List Text}
    (leads : disk.Leads here names (.found address .directory)) : motive here names leads := by
  have general : ∀ {here names place}, disk.Leads here names place →
      place = .found address .directory → ∀ leads, motive here names leads := by
    intro here names place leads isDirectory
    induction leads with
    | arrived =>
        cases isDirectory
        exact fun _ => arrived
    | up rest ih =>
        subst isDirectory
        exact fun _ => up rest (ih rfl rest)
    | enter step found rest ih =>
        subst isDirectory
        exact fun _ => enter step found rest (ih rfl rest)
    | entry _ _ notDirectory =>
        cases isDirectory
        exact absurd rfl notDirectory
    | vacant => cases isDirectory
  exact general leads rfl leads

/-- Names lead on from a directory that other names lead to. -/
theorem Leads.append (leads : disk.Leads here front (.found address .directory))
    (more : disk.Leads address back place) : disk.Leads here (front ++ back) place := by
  induction leads using Leads.directory_induction with
  | arrived => exact more
  | up _ ih => exact .up ih
  | enter step found _ ih => exact .enter step found ih

/-- Names that lead anywhere lead to a directory on the way. -/
theorem Leads.exists_of_append (leads : disk.Leads here (front ++ back) place) (more : back ≠ []) :
    ∃ middle, disk.Leads here front (.found middle .directory) ∧ disk.Leads middle back place := by
  induction front generalizing here with
  | nil => exact ⟨here, .arrived, leads⟩
  | cons name front ih =>
      generalize whole : name :: front ++ back = names at leads
      cases leads with
      | arrived => simp at whole
      | up rest =>
          simp only [List.cons_append, List.cons.injEq] at whole
          rcases whole with ⟨rfl, rfl⟩
          rcases ih rest with ⟨middle, first, second⟩
          exact ⟨middle, .up first, second⟩
      | enter step found rest =>
          simp only [List.cons_append, List.cons.injEq] at whole
          rcases whole with ⟨rfl, rfl⟩
          rcases ih rest with ⟨middle, first, second⟩
          exact ⟨middle, .enter step found first, second⟩
      | entry => simp [more] at whole
      | vacant => simp [more] at whole

/-- Names that do not lead to a directory have a last one, which is an entry or free in the
directory that the others lead to. -/
theorem Leads.exists_last (leads : disk.Leads here names place)
    (notDirectory : ∀ address, place ≠ .found address .directory) :
    ∃ front directory name, names = front ++ [name] ∧ Path.IsStep name ∧
      disk.Leads here front (.found directory .directory) ∧
      place.address = directory ++ [name] := by
  induction leads with
  | arrived => exact absurd rfl (notDirectory _)
  | up _ ih =>
      rcases ih notDirectory with ⟨front, directory, name, rfl, step, first, address⟩
      exact ⟨_ :: front, directory, name, rfl, step, .up first, address⟩
  | enter enterStep found _ ih =>
      rcases ih notDirectory with ⟨front, directory, name, rfl, step, first, address⟩
      exact ⟨_ :: front, directory, name, rfl, step, .enter enterStep found first, address⟩
  | @entry here name entry step => exact ⟨[], here, name, rfl, step, .arrived, rfl⟩
  | @vacant here name step => exact ⟨[], here, name, rfl, step, .arrived, rfl⟩

/-- What is at the place that names lead to, unless that is a directory, stands at its address. -/
theorem Leads.get?_address (leads : disk.Leads here names place)
    (notDirectory : ∀ address, place ≠ .found address .directory) :
    disk.get? place.address = place.entry? := by
  induction leads with
  | arrived => exact absurd rfl (notDirectory _)
  | up _ ih => exact ih notDirectory
  | enter _ _ _ ih => exact ih notDirectory
  | entry _ found => exact found
  | vacant _ absent => exact absent

/-- What a last name leads to stands at that name in the directory that the others lead to. -/
theorem Leads.get?_of_concat (notUp : name ≠ Path.upName)
    (leads : disk.Leads here (front ++ [name]) (.found address entry)) :
    ∃ directory, disk.Leads here front (.found directory .directory) ∧
      address = directory ++ [name] ∧ disk.get? address = some entry := by
  rcases leads.exists_of_append (by simp) with ⟨directory, first, last⟩
  refine ⟨directory, first, ?_⟩
  cases last with
  | up => exact absurd rfl notUp
  | enter _ found rest =>
      cases rest
      exact ⟨rfl, found⟩
  | entry _ found => exact ⟨rfl, found⟩

/-- Whether two disks have the same current directory, and the directories of one are directories of
the other. -/
structure KeepsDirectories (before after : Disk) : Prop where
  current_eq : after.current = before.current
  directory : ∀ address, before.get? address = some .directory →
    after.get? address = some .directory

theorem KeepsDirectories.trans {mid : Disk} (first : KeepsDirectories before mid)
    (second : KeepsDirectories mid after) : KeepsDirectories before after where
  current_eq := second.current_eq.trans first.current_eq
  directory := fun address found => second.directory address (first.directory address found)

/-- Names that lead to a directory go on leading there. -/
theorem Leads.mono (leads : before.Leads here names (.found address .directory))
    (keeps : KeepsDirectories before after) :
    after.Leads here names (.found address .directory) := by
  induction leads using Leads.directory_induction with
  | arrived => exact .arrived
  | up _ ih => exact .up ih
  | enter step found _ ih => exact .enter step (keeps.directory _ found) ih

/-- Names that did not lead to a directory lead to what stands there now. -/
theorem Leads.of_get? (leads : before.Leads here names place)
    (keeps : KeepsDirectories before after)
    (notDirectory : ∀ address, place ≠ .found address .directory)
    (found : after.get? place.address = some entry) :
    after.Leads here names (.found place.address entry) := by
  rcases leads.exists_last notDirectory with ⟨front, directory, name, rfl, step, first, address⟩
  rw [address] at found ⊢
  refine (first.mono keeps).append ?_
  by_cases isDirectory : entry = .directory
  · rw [isDirectory] at found ⊢
    exact .enter step found .arrived
  · exact .entry step found isDirectory

theorem KeepsDirectories.start_eq (keeps : KeepsDirectories before after) (path : Path) :
    after.start path = before.start path := by
  rw [start, start, keeps.current_eq]

theorem LeadsTo.mono (leads : before.LeadsTo path (.found address .directory))
    (keeps : KeepsDirectories before after) : after.LeadsTo path (.found address .directory) := by
  rw [LeadsTo, keeps.start_eq]
  exact Leads.mono leads keeps

theorem LeadsTo.of_get? (leads : before.LeadsTo path place) (keeps : KeepsDirectories before after)
    (notDirectory : ∀ address, place ≠ .found address .directory)
    (found : after.get? place.address = some entry) :
    after.LeadsTo path (.found place.address entry) := by
  rw [LeadsTo, keeps.start_eq]
  exact Leads.of_get? leads keeps notDirectory found

/-- Where the path of an entry of a directory leads is that entry of where the directory is. -/
theorem LeadsTo.child (notUp : name ≠ Path.upName)
    (leads : disk.LeadsTo (path.child name) (.found address entry)) :
    ∃ directory, disk.LeadsTo path (.found directory .directory) ∧ address = directory ++ [name] ∧
      disk.get? address = some entry :=
  Leads.get?_of_concat notUp leads

end Disk

end ScriptSite
