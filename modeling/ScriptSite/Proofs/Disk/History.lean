import ScriptSite.Proofs.Disk.Address
import ScriptSite.Proofs.Disk.Listing

/-!
# Histories of writes

Whatever is done to a disk is done in steps of three kinds: a directory is made at a free place, a
file is written at a free place or over a file, or an entry gets the rights of another one. `Writes`
is the history of such steps, and every action here that changes a disk has one
(`writesOnly_ensureDirectories`, `writesOnly_writeFile`), also if it fails halfway.

What each step keeps the whole history keeps. So a disk stays orderly (`Writes.orderly`), and it
changes at the paths of the steps only (`Writes.changes`).
-/

namespace ScriptSite.Disk

variable {disk before mid after : Disk} {path : Path} {directory address : Address} {name : Text}
  {place : Place} {entry : Entry} {made written moreMade moreWritten : Path → Prop}

theorem map_fst_setIn (address : Address) (entry : Entry) (entries : List (Address × Entry)) :
    (setIn address entry entries).map Prod.fst =
      if address ∈ entries.map Prod.fst then entries.map Prod.fst
      else entries.map Prod.fst ++ [address] := by
  induction entries with
  | nil => simp [setIn]
  | cons first rest ih =>
      rcases first with ⟨key, old⟩
      by_cases same : key = address
      · simp [setIn, same]
      · simp only [setIn, same, if_false, List.map_cons, ih, List.mem_cons, Ne.symm same, false_or]
        split <;> rfl

theorem lookup_eq_none_iff {entries : List (Address × Entry)} :
    entries.lookup address = none ↔ address ∉ entries.map Prod.fst := by
  simp only [List.lookup_eq_none_iff, List.mem_map, not_exists, not_and, bne_iff_ne, ne_eq,
    eq_comm (b := address)]

/-- What is listed is there, but for the root, which is there anyway. -/
theorem mem_keys_iff (inside : address ≠ []) :
    address ∈ disk.entries.map Prod.fst ↔ disk.get? address ≠ none := by
  rw [get?, if_neg inside, ne_eq, lookup_eq_none_iff, not_not]

theorem mem_sortedNames_iff :
    name ∈ disk.sortedNames directory ↔ disk.get? (directory ++ [name]) ≠ none := by
  rw [sortedNames, List.mem_mergeSort, mem_names_iff, mem_keys_iff (by simp)]

/-- Whether a disk has no links, lists no address twice, and has no two dots for a name. -/
structure Orderly (disk : Disk) : Prop where
  linkless : disk.Linkless
  nodup : (disk.entries.map Prod.fst).Nodup
  ne_up : ∀ directory name, disk.get? (directory ++ [name]) ≠ none → name ≠ Path.upName

theorem WellFormed.orderly (wellFormed : disk.WellFormed) (linkless : disk.Linkless) :
    disk.Orderly where
  linkless := linkless
  nodup := wellFormed.nodup
  ne_up := fun _ _ there =>
    (wellFormed.isName_of_mem_sortedNames (mem_sortedNames_iff.mpr there)).2

/-- A place that is no directory is at a name in a directory. -/
theorem exists_name_of_locate (linkless : disk.Linkless) {followLast : Bool}
    (located : disk.locate followLast path = .ok place)
    (notDirectory : ∀ address, place ≠ .found address .directory) :
    ∃ directory name, place.address = directory ++ [name] ∧ name ≠ Path.upName := by
  rcases ((locate_eq_ok_iff linkless followLast).mp located).2.exists_last notDirectory with
    ⟨_, directory, name, _, step, _, address⟩
  exact ⟨directory, name, address, step.ne_up⟩

theorem Orderly.set (orderly : disk.Orderly) {followLast : Bool}
    (located : disk.locate followLast path = .ok place)
    (notDirectory : ∀ address, place ≠ .found address .directory)
    (notLink : ∀ target, entry ≠ .link target) : (disk.set place.address entry).Orderly := by
  rcases exists_name_of_locate orderly.linkless located notDirectory with
    ⟨directory, name, address, notUp⟩
  rw [address]
  refine ⟨orderly.linkless.set (by simp) notLink, ?_, ?_⟩
  · rw [Disk.set, map_fst_setIn]
    split
    · exact orderly.nodup
    · rename_i notListed
      rw [List.nodup_append]
      refine ⟨orderly.nodup, by simp, ?_⟩
      rintro key mem _ new rfl
      rw [List.mem_singleton] at new
      exact notListed (new ▸ mem)
  · intro otherDirectory otherName there
    by_cases same : otherDirectory ++ [otherName] = directory ++ [name]
    · have sameName := (List.append_inj' same rfl).2
      rw [List.singleton_inj] at sameName
      rw [sameName]
      exact notUp
    · rw [get?_set_of_ne same] at there
      exact orderly.ne_up _ _ there

theorem Orderly.copyRights (orderly : disk.Orderly) (source target : Path) :
    (disk.copyRights source target).Orderly :=
  ⟨orderly.linkless, orderly.nodup, orderly.ne_up⟩

/-- Whether the current directory is there, and whatever is there is in a directory. -/
structure IsTree (disk : Disk) : Prop where
  current : disk.get? disk.current = some .directory
  parent : ∀ directory name, disk.get? (directory ++ [name]) ≠ none →
    disk.get? directory = some .directory

namespace IsTree

/-- What has something below it is a directory. -/
theorem directory_of_append {rest : Address} (isTree : disk.IsTree) (more : rest ≠ [])
    (there : disk.get? (address ++ rest) ≠ none) : disk.get? address = some .directory := by
  induction rest generalizing address with
  | nil => exact absurd rfl more
  | cons name rest ih =>
      by_cases last : rest = []
      · rw [last] at there
        exact isTree.parent address name there
      · rw [List.append_cons] at there
        exact isTree.parent address name (by simp [ih last there])

/-- What is above something in a directory is in that directory. -/
theorem mem_sortedNames {rest : Address} (isTree : disk.IsTree)
    (there : disk.get? (address ++ name :: rest) ≠ none) : name ∈ disk.sortedNames address := by
  rw [mem_sortedNames_iff]
  by_cases last : rest = []
  · rwa [last] at there
  · rw [List.append_cons] at there
    simp [isTree.directory_of_append last there]

theorem directory_of_leads {here : Address} {names : List Text} (isTree : disk.IsTree)
    (leads : disk.Leads here names (.found address .directory))
    (start : disk.get? here = some .directory) : disk.get? address = some .directory := by
  induction leads using Leads.directory_induction with
  | arrived => exact start
  | @up here names _ ih =>
      refine ih ?_
      rcases List.eq_nil_or_concat here with rfl | ⟨front, last, rfl⟩
      · exact start
      · rw [List.concat_eq_append, List.dropLast_concat]
        rw [List.concat_eq_append] at start
        exact isTree.parent front last (by simp [start])
  | enter _ found _ ih => exact ih found

theorem start_directory (isTree : disk.IsTree) (path : Path) :
    disk.get? (disk.start path) = some .directory := by
  rw [start]
  split
  · rfl
  · exact isTree.current

/-- What a path finds stands at its address. -/
theorem get?_of_find (isTree : disk.IsTree) (linkless : disk.Linkless)
    (found : disk.find path = .ok (address, entry)) : disk.get? address = some entry := by
  have leads := ((find_eq_ok_iff linkless).mp found).2
  by_cases isDirectory : entry = .directory
  · rw [isDirectory] at leads ⊢
    exact isTree.directory_of_leads leads (isTree.start_directory path)
  · exact leads.get?_address (by simp [isDirectory])

/-- Nothing is below what is no directory. -/
theorem eq_nil_of_append {rest : Address} (isTree : disk.IsTree)
    (notDirectory : disk.get? address ≠ some .directory)
    (there : disk.get? (address ++ rest) ≠ none) : rest = [] := by
  by_contra more
  exact notDirectory (isTree.directory_of_append more there)

end IsTree

/-- At or below a file there is nothing but the file. -/
theorem IsTree.eq_of_append_of_file {rest : Address} {bytes : Bytes} (isTree : disk.IsTree)
    (stands : disk.get? address = some (.file bytes))
    (there : disk.get? (address ++ rest) = some entry) : rest = [] ∧ entry = .file bytes := by
  have last := isTree.eq_nil_of_append (by simp [stands]) (there ▸ Option.some_ne_none entry)
  rw [last, List.append_nil, stands, Option.some.injEq] at there
  exact ⟨last, there.symm⟩

theorem isTree_of_entries (current : disk.get? disk.current = some .directory)
    (parent : ∀ key ∈ disk.entries.map Prod.fst, disk.get? key.dropLast = some .directory) :
    disk.IsTree where
  current := current
  parent := by
    intro directory name there
    simpa using parent _ ((mem_keys_iff (by simp)).mpr there)

/-- What is set in a directory keeps a tree a tree. -/
theorem IsTree.set (isTree : disk.IsTree) (linkless : disk.Linkless) {followLast : Bool}
    (located : disk.locate followLast path = .ok place)
    (notDirectory : ∀ address, place ≠ .found address .directory) (entry : Entry) :
    (disk.set place.address entry).IsTree := by
  have leads := ((locate_eq_ok_iff linkless followLast).mp located).2
  have keeps : KeepsDirectories disk (disk.set place.address entry) :=
    keepsDirectories_set (get?_ne_directory_of_locate linkless located notDirectory)
  rcases leads.exists_last notDirectory with ⟨front, directory, name, _, _, first, address⟩
  constructor
  · exact keeps.directory _ isTree.current
  · intro other otherName there
    by_cases same : other ++ [otherName] = place.address
    · rw [address] at same
      rw [(List.append_inj' same rfl).1]
      exact keeps.directory _ (isTree.directory_of_leads first (isTree.start_directory path))
    · rw [get?_set_of_ne same] at there
      exact keeps.directory _ (isTree.parent other otherName there)

theorem IsTree.copyRights (isTree : disk.IsTree) (source target : Path) :
    (disk.copyRights source target).IsTree :=
  ⟨isTree.current, isTree.parent⟩

/-- A disk that comes from another one in steps: directories are made at paths of the class `made`,
and files are written, and rights are copied, to paths of the class `written`. -/
inductive Writes (made written : Path → Prop) (before : Disk) : Disk → Prop
  | nothing : Writes made written before before
  | directory {mid : Disk} {path : Path} {directory : Address} {name : Text}
      (earlier : Writes made written before mid) (isMade : made path)
      (located : mid.locate false path = .ok (.vacant directory name)) :
      Writes made written before (mid.set (directory ++ [name]) .directory)
  | file {mid : Disk} {path : Path} {place : Place} {bytes : Bytes}
      (earlier : Writes made written before mid) (isWritten : written path)
      (located : mid.locate true path = .ok place)
      (replaces : place.entry? = none ∨ ∃ old, place.entry? = some (.file old)) :
      Writes made written before (mid.set place.address (.file bytes))
  | rights {mid : Disk} {source path : Path} (earlier : Writes made written before mid)
      (isWritten : written path) : Writes made written before (mid.copyRights source path)

namespace Writes

theorem trans (first : Writes made written before mid) (second : Writes made written mid after) :
    Writes made written before after := by
  induction second with
  | nothing => exact first
  | directory _ isMade located ih => exact .directory ih isMade located
  | file _ isWritten located replaces ih => exact .file ih isWritten located replaces
  | rights _ isWritten ih => exact .rights ih isWritten

theorem weaken (writes : Writes made written before after)
    (moreMadeOf : ∀ path, made path → moreMade path)
    (moreWrittenOf : ∀ path, written path → moreWritten path) :
    Writes moreMade moreWritten before after := by
  induction writes with
  | nothing => exact .nothing
  | directory _ isMade located ih => exact .directory ih (moreMadeOf _ isMade) located
  | file _ isWritten located replaces ih =>
      exact .file ih (moreWrittenOf _ isWritten) located replaces
  | rights _ isWritten ih => exact .rights ih (moreWrittenOf _ isWritten)

theorem orderly (writes : Writes made written before after) (orderly : before.Orderly) :
    after.Orderly := by
  induction writes with
  | nothing => exact orderly
  | directory _ _ located ih => exact ih.set located (by simp) (by simp)
  | file _ _ located replaces ih =>
      exact ih.set located (Place.ne_directory replaces) (by simp)
  | rights _ _ ih => exact ih.copyRights _ _

theorem changes (writes : Writes made written before after) (linkless : before.Linkless) :
    Changes made written before after := by
  induction writes with
  | nothing => exact .refl _ _ _
  | directory _ isMade located ih =>
      refine ih.trans ?_ linkless
      refine (changes_set_directory (ih.linkless linkless) located).1.weaken ?_
        (fun _ => False.elim)
      rintro _ rfl
      exact isMade
  | file _ isWritten located replaces ih =>
      refine ih.trans ?_ linkless
      refine (changes_set_file (ih.linkless linkless) located replaces _).1.weaken
        (fun _ => False.elim) ?_
      rintro _ rfl
      exact isWritten
  | rights _ isWritten ih =>
      refine ih.trans ?_ linkless
      refine (changes_copyRights _ _ _).weaken (fun _ => False.elim) ?_
      rintro _ rfl
      exact isWritten

theorem isTree (writes : Writes made written before after) (isTree : before.IsTree)
    (linkless : before.Linkless) : after.IsTree := by
  induction writes with
  | nothing => exact isTree
  | directory earlier _ located ih =>
      exact ih.set ((earlier.changes linkless).linkless linkless) located (by simp) _
  | file earlier _ located replaces ih =>
      exact ih.set ((earlier.changes linkless).linkless linkless) located
        (Place.ne_directory replaces) _
  | rights _ _ ih => exact ih.copyRights _ _

/-- Where no path of a step leads nothing changes. -/
theorem get?_eq (writes : Writes made written before after) (linkless : before.Linkless)
    (elsewhere : ∀ path, made path ∨ written path → before.addressOf path ≠ address) :
    after.get? address = before.get? address := by
  by_contra changed
  rcases (writes.changes linkless).exists_of_get?_ne linkless changed with
    ⟨path, isMade, rfl, _⟩ | ⟨path, isWritten, rfl⟩
  · exact elsewhere path (Or.inl isMade) rfl
  · exact elsewhere path (Or.inr isWritten) rfl

end Writes

/-- Whether an orderly disk comes to another one by writes. -/
def Evolves (made written : Path → Prop) (before after : Disk) : Prop :=
  before.Orderly → Writes made written before after

instance (made written : Path → Prop) : IsPreorder Disk (Evolves made written) where
  refl _ _ := .nothing
  trans _ _ _ first second orderly :=
    (first orderly).trans (second ((first orderly).orderly orderly))

/-- Whether an action does nothing to an orderly disk but make directories at paths of the class
`made` and write files at paths of the class `written`. -/
abbrev WritesOnly {ε α : Type} (made written : Path → Prop) (action : DiskAction ε α) : Prop :=
  Respects (Evolves made written) action

theorem WritesOnly.weaken {ε α : Type} {action : DiskAction ε α}
    (writes : WritesOnly made written action) (moreMadeOf : ∀ path, made path → moreMade path)
    (moreWrittenOf : ∀ path, written path → moreWritten path) :
    WritesOnly moreMade moreWritten action :=
  writes.mono fun _ _ evolves orderly => (evolves orderly).weaken moreMadeOf moreWrittenOf

theorem writesOnly_makeDirectory (path : Path) :
    WritesOnly (· = path) (fun _ => False) (makeDirectory path) := by
  intro before outcome after run _
  rw [makeDirectory, runOn_bind, runOn_get] at run
  simp only at run
  split at run
  · cases run
    exact .nothing
  · rename_i located
    cases run
    exact .directory .nothing rfl located
  · cases run
    exact .nothing

/-- Where there is no directory to make, nothing is done. -/
theorem respects_ensureDirectory {R : Disk → Disk → Prop} {path : Path}
    (makes : Respects R (makeDirectory path)) : Respects R (ensureDirectory path) := by
  intro before outcome after run
  rw [runOn_ensureDirectory] at run
  rcases making : runOn (makeDirectory path) before with ⟨made, later⟩
  have comes := makes _ _ _ making
  rw [making] at run
  rcases made with (error | _) | _
  · simp only at run
    split at run
    · cases run
      exact comes
    · split at run <;> (cases run; exact comes)
  · cases run
    exact comes
  · cases run
    exact comes

theorem writesOnly_ensureDirectory (path : Path) :
    WritesOnly (· = path) (fun _ => False) (ensureDirectory path) :=
  respects_ensureDirectory (writesOnly_makeDirectory path)

theorem writesOnly_ensureNames (slashes : Nat) (names : List Text) :
    WritesOnly (Path.LeadsThrough { slashes, names := names.reverse }) (fun _ => False)
      (ensureNames slashes names) := by
  induction names with
  | nil =>
      exact WritesOnly.weaken (writesOnly_ensureDirectory _).adapt (fun _ => .of_eq) (fun _ => id)
  | cons name above ih =>
      have this : WritesOnly (Path.LeadsThrough { slashes, names := (name :: above).reverse })
          (fun _ => False) (ensureDirectoryAt { slashes, names := (name :: above).reverse }) :=
        WritesOnly.weaken (writesOnly_ensureDirectory _).adapt (fun _ => .of_eq) (fun _ => id)
      refine Respects.tryCatch this fun fault => ?_
      split
      · exact (WritesOnly.weaken ih (fun _ leads => leads.reverse_cons name)
          (fun _ => id)).bind fun _ => this
      · exact .of_onlyLooks fun _ => rfl

theorem writesOnly_ensureDirectories (path : Path) :
    WritesOnly path.LeadsThrough (fun _ => False) (ensureDirectories path) := by
  have writes := writesOnly_ensureNames path.slashes path.names.reverse
  rw [List.reverse_reverse] at writes
  exact writes

theorem writesOnly_writeFile (path : Path) (bytes : Bytes) :
    WritesOnly (fun _ => False) (· = path) (writeFile path bytes) := by
  intro before outcome after run _
  rcases outcome with fault | _
  · rw [eq_of_runOn_writeFile_error run]
    exact .nothing
  · rcases runOn_writeFile_eq_ok_iff.mp run with ⟨place, located, replaces, _, rfl⟩
    exact .file .nothing rfl located replaces

theorem writesOnly_copyRights {ε : Type} (source target : Path) :
    WritesOnly (fun _ => False) (· = target)
      (modify (·.copyRights source target) : DiskAction ε PUnit) := by
  intro before outcome after run _
  cases run
  exact .rights .nothing rfl

end ScriptSite.Disk
