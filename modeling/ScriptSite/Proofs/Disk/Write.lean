import ScriptSite.Proofs.Disk.Follow
import ScriptSite.Proofs.Disk.Run

/-!
# What writing changes

Making directories and writing files changes a disk in two ways: there are new directories, and some
files are new or have other bytes. `Changes` says so for a class of paths at which directories are
made and a class of paths that are written to. It is closed under doing one thing after another, and
keeps what the directories lead to (`Changes.keeps`).

Making a directory and those above it changes nothing but that these directories are there
(`ensures_ensureDirectories`), whether it succeeds or fails halfway, and writing to a file changes
nothing but that file (`ensures_writeFile`). If they succeed, the path finds what it is meant to.
-/

namespace ScriptSite

/-- Whether a path leads through another one: it begins with it, or is the same. -/
def Path.LeadsThrough (path above : Path) : Prop :=
  above.slashes = path.slashes ∧ above.names <+: path.names

namespace Path.LeadsThrough

variable {path above top : Path}

theorem refl (path : Path) : path.LeadsThrough path :=
  ⟨rfl, List.prefix_refl _⟩

theorem of_eq (same : above = path) : path.LeadsThrough above :=
  same ▸ refl path

theorem trans (inner : path.LeadsThrough above) (outer : above.LeadsThrough top) :
    path.LeadsThrough top :=
  ⟨outer.1.trans inner.1, outer.2.trans inner.2⟩

/-- With one more name a path leads through what it led through without. -/
theorem reverse_cons {slashes : Nat} {names : List Text}
    (leads : Path.LeadsThrough { slashes, names := names.reverse } above) (name : Text) :
    Path.LeadsThrough { slashes, names := (name :: names).reverse } above := by
  have shorter : Path.LeadsThrough { slashes, names := (name :: names).reverse }
      { slashes, names := names.reverse } := ⟨rfl, by simp⟩
  exact shorter.trans leads

end Path.LeadsThrough

namespace Disk

variable {disk before mid after : Disk} {path : Path} {address : Address} {entry other : Entry}
  {made written moreMade moreWritten : Path → Prop}

/-- A path that finds a directory goes on finding it. -/
theorem find_mono (linkless : before.Linkless) (afterLinkless : after.Linkless)
    (keeps : KeepsDirectories before after) (found : before.find path = .ok (address, .directory)) :
    after.find path = .ok (address, .directory) := by
  rw [find_eq_ok_iff linkless] at found
  rw [find_eq_ok_iff afterLinkless]
  exact ⟨found.1, found.2.mono keeps⟩

/-- A path that finds something other than a directory goes on finding what stands there. -/
theorem find_of_get? (linkless : before.Linkless) (afterLinkless : after.Linkless)
    (keeps : KeepsDirectories before after) (found : before.find path = .ok (address, entry))
    (notDirectory : entry ≠ .directory) (stands : after.get? address = some other) :
    after.find path = .ok (address, other) := by
  rw [find_eq_ok_iff linkless] at found
  rw [find_eq_ok_iff afterLinkless]
  exact ⟨found.1, found.2.of_get? keeps (by simp [notDirectory]) stands⟩

/-- What can happen to an address: nothing, or there is a new directory at the end of a path of the
class `made`, or a file that is new or has other bytes at the end of a path of the class `written`.
-/
inductive Change (made written : Path → Prop) (before after : Disk) (address : Address) : Prop
  | nothing (same : after.get? address = before.get? address)
  | directory {path : Path} (absent : before.get? address = none)
      (new : after.get? address = some .directory) (isMade : made path)
      (found : after.find path = .ok (address, .directory))
  | file {path : Path} {bytes : Bytes}
      (replaces : before.get? address = none ∨ ∃ old, before.get? address = some (.file old))
      (new : after.get? address = some (.file bytes)) (isWritten : written path)
      (found : after.find path = .ok (address, .file bytes))

/-- Whether a disk is another one with directories made at paths of the class `made` and files
written at paths of the class `written`. What is denied of an entry has changed only if the entry is
new or found by a path that is written to. -/
structure Changes (made written : Path → Prop) (before after : Disk) : Prop where
  current_eq : after.current = before.current
  reach_eq : after.reach = before.reach
  change : ∀ address, Change made written before after address
  denies : ∀ access address, after.denies access address = before.denies access address ∨
    before.get? address = none ∨
      ∃ path entry, written path ∧ after.find path = .ok (address, entry)

namespace Changes

theorem refl (made written : Path → Prop) (disk : Disk) : Changes made written disk disk :=
  ⟨rfl, rfl, fun _ => .nothing rfl, fun _ _ => Or.inl rfl⟩

theorem keeps (changes : Changes made written before after) : KeepsDirectories before after where
  current_eq := changes.current_eq
  directory := by
    intro address found
    cases changes.change address with
    | nothing same => rw [same, found]
    | directory absent => simp [found] at absent
    | file replaces => simp [found] at replaces

theorem linkless (changes : Changes made written before after) (linkless : before.Linkless) :
    after.Linkless := by
  intro address target found
  cases changes.change address with
  | nothing same => exact linkless address target (same.symm.trans found)
  | directory _ new => simp [new] at found
  | file _ new => simp [new] at found

theorem weaken (changes : Changes made written before after)
    (moreMadeOf : ∀ path, made path → moreMade path)
    (moreWrittenOf : ∀ path, written path → moreWritten path) :
    Changes moreMade moreWritten before after where
  current_eq := changes.current_eq
  reach_eq := changes.reach_eq
  change := by
    intro address
    cases changes.change address with
    | nothing same => exact .nothing same
    | directory absent new isMade found => exact .directory absent new (moreMadeOf _ isMade) found
    | file replaces new isWritten found =>
        exact .file replaces new (moreWrittenOf _ isWritten) found
  denies := by
    intro access address
    refine (changes.denies access address).imp_right (Or.imp_right ?_)
    rintro ⟨path, entry, isWritten, found⟩
    exact ⟨path, entry, moreWrittenOf _ isWritten, found⟩

/-- A path that finds something goes on finding something. -/
theorem exists_find (changes : Changes made written before after) (linkless : before.Linkless)
    (found : before.find path = .ok (address, entry)) :
    ∃ now, after.find path = .ok (address, now) := by
  have afterLinkless := changes.linkless linkless
  by_cases isDirectory : entry = .directory
  · rw [isDirectory] at found
    exact ⟨_, find_mono linkless afterLinkless changes.keeps found⟩
  · have finds : ∀ now, after.get? address = some now → after.find path = .ok (address, now) :=
      fun _ stands => find_of_get? linkless afterLinkless changes.keeps found isDirectory stands
    have stood : before.get? address = some entry :=
      ((find_eq_ok_iff linkless).mp found).2.get?_address (by simp [isDirectory])
    cases changes.change address with
    | nothing same => exact ⟨entry, finds entry (same.trans stood)⟩
    | directory absent => simp [stood] at absent
    | file _ new => exact ⟨_, finds _ new⟩

/-- Where nothing is now there was nothing before. -/
theorem get?_eq_none (changes : Changes made written before after)
    (absent : after.get? address = none) : before.get? address = none := by
  cases changes.change address with
  | nothing same => exact same.symm.trans absent
  | directory _ new => simp [new] at absent
  | file _ new => simp [new] at absent

theorem trans (first : Changes made written before mid) (second : Changes made written mid after)
    (linkless : before.Linkless) : Changes made written before after where
  current_eq := second.current_eq.trans first.current_eq
  reach_eq := second.reach_eq.trans first.reach_eq
  denies := by
    intro access address
    rcases second.denies access address with same | absent | written
    · rcases first.denies access address with firstSame | absent | ⟨path, entry, isWritten, found⟩
      · exact Or.inl (same.trans firstSame)
      · exact Or.inr (Or.inl absent)
      · rcases second.exists_find (first.linkless linkless) found with ⟨now, lastFound⟩
        exact Or.inr (Or.inr ⟨path, now, isWritten, lastFound⟩)
    · exact Or.inr (Or.inl (first.get?_eq_none absent))
    · exact Or.inr (Or.inr written)
  change := by
    intro address
    have midLinkless := first.linkless linkless
    have afterLinkless := second.linkless midLinkless
    cases second.change address with
    | nothing same =>
        cases first.change address with
        | nothing firstSame => exact .nothing (same.trans firstSame)
        | directory absent new isMade found =>
            exact .directory absent (same.trans new) isMade
              (find_mono midLinkless afterLinkless second.keeps found)
        | file replaces new isWritten found =>
            exact .file replaces (same.trans new) isWritten
              (find_of_get? midLinkless afterLinkless second.keeps found (by simp)
                (same.trans new))
    | directory absent new isMade found =>
        cases first.change address with
        | nothing firstSame => exact .directory (firstSame.symm.trans absent) new isMade found
        | directory _ firstNew => simp [firstNew] at absent
        | file _ firstNew => simp [firstNew] at absent
    | file replaces new isWritten found =>
        cases first.change address with
        | nothing firstSame =>
            rw [firstSame] at replaces
            exact .file replaces new isWritten found
        | directory _ firstNew => simp [firstNew] at replaces
        | file firstReplaces => exact .file firstReplaces new isWritten found

end Changes

theorem keepsDirectories_set (notDirectory : disk.get? address ≠ some .directory) :
    KeepsDirectories disk (disk.set address entry) where
  current_eq := rfl
  directory := by
    intro there found
    have different : there ≠ address := by
      rintro rfl
      exact notDirectory found
    rw [get?_set_of_ne different, found]

theorem Linkless.set (linkless : disk.Linkless) (inside : address ≠ [])
    (notLink : ∀ target, entry ≠ .link target) : (disk.set address entry).Linkless := by
  intro there target found
  by_cases same : there = address
  · rw [same, get?_set_self inside, Option.some.injEq] at found
    exact notLink target found
  · rw [get?_set_of_ne same] at found
    exact linkless there target found

theorem get?_of_locate (linkless : disk.Linkless) {followLast : Bool} {place : Place}
    (located : disk.locate followLast path = .ok place)
    (notDirectory : ∀ address, place ≠ .found address .directory) :
    disk.get? place.address = place.entry? :=
  ((locate_eq_ok_iff linkless followLast).mp located).2.get?_address notDirectory

theorem get?_ne_directory_of_locate (linkless : disk.Linkless) {followLast : Bool} {place : Place}
    (located : disk.locate followLast path = .ok place)
    (notDirectory : ∀ address, place ≠ .found address .directory) :
    disk.get? place.address ≠ some .directory := by
  rw [get?_of_locate linkless located notDirectory]
  cases place with
  | found address there =>
      intro isDirectory
      simp only [Place.entry?, Option.some.injEq] at isDirectory
      exact notDirectory address (by rw [isDirectory])
  | vacant => simp [Place.entry?]

/-- The place that a path is located at, if it is no directory, can be set, and the path finds what
it is set to. -/
theorem find_set (linkless : disk.Linkless) {followLast : Bool} {place : Place} (entry : Entry)
    (located : disk.locate followLast path = .ok place)
    (notDirectory : ∀ address, place ≠ .found address .directory)
    (notLink : ∀ target, entry ≠ .link target) :
    disk.get? place.address = place.entry? ∧
      (disk.set place.address entry).get? place.address = some entry ∧
      (disk.set place.address entry).find path = .ok (place.address, entry) := by
  rcases (locate_eq_ok_iff linkless followLast).mp located with ⟨usable, leads⟩
  have notDirectoryThere := get?_ne_directory_of_locate linkless located notDirectory
  have inside : place.address ≠ [] := by
    intro root
    simp [root, get?] at notDirectoryThere
  have self := get?_set_self inside disk entry
  refine ⟨get?_of_locate linkless located notDirectory, self, ?_⟩
  rw [find_eq_ok_iff (linkless.set inside notLink)]
  exact ⟨usable, leads.of_get? (keepsDirectories_set notDirectoryThere) notDirectory self⟩

theorem changes_set_directory (linkless : disk.Linkless) {followLast : Bool} {directory : Address}
    {name : Text} (located : disk.locate followLast path = .ok (.vacant directory name)) :
    Changes (· = path) (fun _ => False) disk (disk.set (directory ++ [name]) .directory) ∧
      (disk.set (directory ++ [name]) .directory).find path =
        .ok (directory ++ [name], .directory) := by
  rcases find_set linkless .directory located (by simp) (by simp) with
    ⟨absent, self, finds⟩
  refine ⟨⟨rfl, rfl, ?_, ?_⟩, finds⟩
  · intro there
    by_cases same : there = directory ++ [name]
    · rw [same]
      exact .directory absent self rfl finds
    · exact .nothing (get?_set_of_ne same disk .directory)
  · intro access there
    by_cases same : there = directory ++ [name]
    · rw [same]
      exact Or.inr (Or.inl absent)
    · exact Or.inl (denies_set_of_ne same disk .directory access)

/-- A file is set at the place of a path, which was free or a file. -/
theorem changes_set_file (linkless : disk.Linkless) {followLast : Bool} {place : Place}
    (located : disk.locate followLast path = .ok place)
    (replaces : place.entry? = none ∨ ∃ old, place.entry? = some (.file old)) (bytes : Bytes) :
    Changes (fun _ => False) (· = path) disk (disk.set place.address (.file bytes)) ∧
      (disk.set place.address (.file bytes)).find path = .ok (place.address, .file bytes) := by
  have notDirectory := Place.ne_directory replaces
  rcases find_set linkless (.file bytes) located notDirectory (by simp) with
    ⟨stood, self, finds⟩
  refine ⟨⟨rfl, rfl, ?_, ?_⟩, finds⟩
  · intro there
    by_cases same : there = place.address
    · rw [same]
      exact .file (by rwa [stood]) self rfl finds
    · exact .nothing (get?_set_of_ne same disk (.file bytes))
  · intro access there
    by_cases same : there = place.address
    · rw [same]
      exact Or.inr (Or.inr ⟨path, _, rfl, finds⟩)
    · exact Or.inl (denies_set_of_ne same disk (.file bytes) access)

theorem find_copyRights (disk : Disk) (source target path : Path) :
    (disk.copyRights source target).find path = disk.find path := by
  refine find_congr ?_ (get?_copyRights disk source target) path
  rfl

/-- Copying rights changes what is denied of the entry that the target finds. -/
theorem changes_copyRights (disk : Disk) (source target : Path) :
    Changes (fun _ => False) (· = target) disk (disk.copyRights source target) := by
  refine ⟨rfl, rfl, fun _ => .nothing rfl, fun access address => ?_⟩
  by_cases finds : ∃ entry, disk.find target = .ok (address, entry)
  · rcases finds with ⟨entry, found⟩
    refine Or.inr (Or.inr ⟨target, entry, rfl, ?_⟩)
    rwa [find_copyRights]
  · exact Or.inl (denies_copyRights_of_ne (not_exists.mp finds) access)

/-- Whether an action that is to have a path find an entry has changed the disk at the paths of the
classes `made` and `written` only, and has done it if it succeeded. -/
structure Ensures {ε : Type} (made written : Path → Prop) (path : Path) (entry : Entry)
    (outcome : Except ε Unit) (before after : Disk) : Prop where
  changes : Changes made written before after
  found : outcome = .ok () → ∃ address, after.find path = .ok (address, entry)

namespace Ensures

variable {ε ε' : Type} {e : ε} {outcome : Except ε Unit}

theorem of_error (changes : Changes made written before after) :
    Ensures made written path entry (.error e) before after :=
  ⟨changes, by simp⟩

theorem mapError (ensures : Ensures made written path entry outcome before after) (f : ε → ε') :
    Ensures made written path entry (outcome.mapError f) before after where
  changes := ensures.changes
  found := by
    intro success
    cases outcome with
    | error => simp [Except.mapError] at success
    | ok => exact ensures.found rfl

theorem weaken (ensures : Ensures made written path entry outcome before after)
    (moreMadeOf : ∀ path, made path → moreMade path)
    (moreWrittenOf : ∀ path, written path → moreWritten path) :
    Ensures moreMade moreWritten path entry outcome before after where
  changes := ensures.changes.weaken moreMadeOf moreWrittenOf
  found := ensures.found

theorem trans (first : Changes made written before mid)
    (ensures : Ensures made written path entry outcome mid after) (linkless : before.Linkless) :
    Ensures made written path entry outcome before after where
  changes := first.trans ensures.changes linkless
  found := ensures.found

end Ensures

/-- Making a directory makes that one, or does nothing if it fails. -/
theorem ensures_makeDirectory (linkless : before.Linkless) {outcome : Except DiskFault Unit}
    (run : runOn (makeDirectory path) before = (outcome, after)) :
    Ensures (· = path) (fun _ => False) path .directory outcome before after := by
  rw [makeDirectory, runOn_bind, runOn_get] at run
  simp only at run
  split at run
  · cases run
    exact .of_error (.refl _ _ before)
  · rename_i located
    cases run
    rcases changes_set_directory linkless located with ⟨changes, finds⟩
    exact ⟨changes, fun _ => ⟨_, finds⟩⟩
  · cases run
    exact .of_error (.refl _ _ before)

theorem runOn_ensureDirectory (path : Path) (disk : Disk) :
    runOn (ensureDirectory path) disk =
      match runOn (makeDirectory path) disk with
      | (.ok _, later) => (.ok (), later)
      | (.error .unnameable, later) => (.error .unnameable, later)
      | (.error (.refused error), later) =>
        if error = .noEntry then (.error (.refused error), later)
        else
          match later.isDirectory path with
          | .ok true => (.ok (), later)
          | .ok false => (.error (.refused error), later)
          | .error error => (.error (.refused error), later) := by
  rw [ensureDirectory, runOn_bind, runOn_tryCatch, runOn_bind]
  rcases runOn (makeDirectory path) disk with ⟨(error | _) | _, later⟩
  · by_cases absent : error = .noEntry
    · simp only [absent, if_true]
      rfl
    · simp only [absent, if_false, runOn_bind, runOn_get]
      rcases later.isDirectory path with _ | _ | _ <;> rfl
  · rfl
  · rfl

theorem ensures_ensureDirectory (linkless : before.Linkless) {outcome : Except DiskFault Unit}
    (run : runOn (ensureDirectory path) before = (outcome, after)) :
    Ensures (· = path) (fun _ => False) path .directory outcome before after := by
  rw [runOn_ensureDirectory] at run
  rcases making : runOn (makeDirectory path) before with ⟨made, later⟩
  have ensures := ensures_makeDirectory linkless making
  rw [making] at run
  rcases made with (error | _) | _
  · simp only at run
    split at run
    · cases run
      exact ensures
    · split at run
      · rename_i isDirectory
        cases run
        exact ⟨ensures.changes, fun _ => isDirectory_eq_true_iff.mp isDirectory⟩
      · cases run
        exact ensures
      · cases run
        exact ⟨ensures.changes, by simp⟩
  · cases run
    exact ensures
  · cases run
    exact ensures

theorem ensures_ensureDirectoryAt (linkless : before.Linkless) {outcome : Except PathFault Unit}
    (run : runOn (ensureDirectoryAt path) before = (outcome, after)) :
    Ensures (· = path) (fun _ => False) path .directory outcome before after := by
  rw [ensureDirectoryAt, runOn_adapt] at run
  cases run
  exact (ensures_ensureDirectory linkless rfl).mapError (PathFault.mk path)

theorem runOn_ensureNames_cons (slashes : Nat) (name : Text) (above : List Text) (disk : Disk) :
    runOn (ensureNames slashes (name :: above)) disk =
      match runOn (ensureDirectoryAt { slashes, names := (name :: above).reverse }) disk with
      | (.ok _, later) => (.ok (), later)
      | (.error fault, later) =>
        if fault.fault = .refused .noEntry then
          runOn (do
            ensureNames slashes above
            ensureDirectoryAt { slashes, names := (name :: above).reverse }) later
        else (.error fault, later) := by
  rw [ensureNames, runOn_tryCatch]
  rcases runOn (ensureDirectoryAt { slashes, names := (name :: above).reverse }) disk with
    ⟨fault | _, later⟩
  · simp only
    split <;> rfl
  · rfl

theorem ensures_ensureNames (linkless : before.Linkless) {slashes : Nat} {names : List Text}
    {outcome : Except PathFault Unit}
    (run : runOn (ensureNames slashes names) before = (outcome, after)) :
    Ensures (Path.LeadsThrough { slashes, names := names.reverse }) (fun _ => False)
      { slashes, names := names.reverse } .directory outcome before after := by
  induction names generalizing before outcome after with
  | nil =>
      exact (ensures_ensureDirectoryAt linkless run).weaken (fun _ => .of_eq) (fun _ => id)
  | cons name above ih =>
      rw [runOn_ensureNames_cons] at run
      rcases making : runOn (ensureDirectoryAt { slashes, names := (name :: above).reverse })
        before with ⟨made, later⟩
      rw [making] at run
      have first := (ensures_ensureDirectoryAt linkless making).weaken
        (fun _ => Path.LeadsThrough.of_eq) (fun _ => id)
      have laterLinkless := first.changes.linkless linkless
      rcases made with fault | _
      -- The directory above may be missing: it is made first, and then this one is tried again.
      · simp only at run
        split at run
        · rw [runOn_bind] at run
          rcases makingAbove : runOn (ensureNames slashes above) later with ⟨madeAbove, last⟩
          rw [makingAbove] at run
          have second := (ih laterLinkless makingAbove).weaken
            (fun _ leads => leads.reverse_cons name) (fun _ => id)
          have changes := first.changes.trans second.changes linkless
          rcases madeAbove with fault | _
          · cases run
            exact .of_error changes
          · have third := ensures_ensureDirectoryAt (changes.linkless linkless) run
            exact (third.weaken (fun _ => .of_eq) (fun _ => id)).trans changes linkless
        · cases run
          exact first
      · cases run
        exact first

/-- Making a directory and those above it makes directories that the path leads through, and the
path finds a directory if it succeeds. -/
theorem ensures_ensureDirectories (linkless : before.Linkless) {outcome : Except PathFault Unit}
    (run : runOn (ensureDirectories path) before = (outcome, after)) :
    Ensures path.LeadsThrough (fun _ => False) path .directory outcome before after := by
  simpa using ensures_ensureNames linkless run

/-- Where a directory is, nothing has to be done for there to be one. -/
theorem runOn_ensureDirectory_of_find (linkless : disk.Linkless)
    (found : disk.find path = .ok (address, .directory)) :
    runOn (ensureDirectory path) disk = (.ok (), disk) := by
  have located : disk.locate false path = .ok (.found address .directory) :=
    (locate_eq_ok_iff linkless false).mpr ((find_eq_ok_iff linkless).mp found)
  have refused : runOn (makeDirectory path) disk = (.error (.refused .alreadyExists), disk) := by
    rw [makeDirectory, runOn_bind, runOn_get]
    simp only [located]
    rfl
  have isDirectory : disk.isDirectory path = .ok true := isDirectory_eq_true_iff.mpr ⟨_, found⟩
  rw [runOn_ensureDirectory, refused]
  simp [isDirectory]

theorem runOn_ensureDirectories_of_find (linkless : disk.Linkless)
    (found : disk.find path = .ok (address, .directory)) :
    runOn (ensureDirectories path) disk = (.ok (), disk) := by
  have ensured : runOn (ensureDirectoryAt path) disk = (.ok (), disk) :=
    runOn_adapt_eq_ok_iff.mpr (runOn_ensureDirectory_of_find linkless found)
  have whole : { slashes := path.slashes, names := path.names.reverse.reverse } = path := by
    rw [List.reverse_reverse]
  rw [ensureDirectories]
  generalize path.names.reverse = names at whole ⊢
  cases names with
  | nil =>
      rw [List.reverse_nil] at whole
      rw [ensureNames, whole, ensured]
  | cons name above => rw [runOn_ensureNames_cons, whole, ensured]

/-- A file is written exactly at a place that is free or a file that may be written to. -/
theorem runOn_writeFile_eq_ok_iff {bytes : Bytes} :
    runOn (writeFile path bytes) before = (.ok (), after) ↔
      ∃ place, before.locate true path = .ok place ∧
        (place.entry? = none ∨ ∃ old, place.entry? = some (.file old)) ∧
        (place.entry? = none ∨ before.denies .writing place.address = false) ∧
        after = before.set place.address (.file bytes) := by
  rw [writeFile, runOn_bind, runOn_get]
  simp only
  constructor
  · intro run
    split at run
    · rename_i located
      split at run
      · cases run
      · rename_i allowed
        cases run
        exact ⟨_, located, by simp [Place.entry?], Or.inr (Bool.eq_false_iff.mpr allowed), rfl⟩
    · cases run
    · cases run
    · rename_i located
      cases run
      exact ⟨_, located, by simp [Place.entry?], by simp [Place.entry?], rfl⟩
    · cases run
  · rintro ⟨place, located, replaces, allowed, rfl⟩
    rcases place with ⟨address, old | _ | _ | _⟩ | ⟨directory, name⟩
    · have mayWrite : before.denies .writing address = false := by
        simpa [Place.entry?, Place.address] using allowed
      simp only [located, mayWrite, Bool.false_eq_true, if_false]
      rfl
    · simp [Place.entry?] at replaces
    · simp [Place.entry?] at replaces
    · simp [Place.entry?] at replaces
    · rw [located]
      rfl

theorem eq_of_runOn_writeFile_error {bytes : Bytes} {fault : DiskFault}
    (run : runOn (writeFile path bytes) before = (.error fault, after)) : after = before := by
  rw [writeFile, runOn_bind, runOn_get] at run
  simp only at run
  split at run
  · split at run <;> cases run
    rfl
  all_goals cases run <;> rfl

/-- Writing to a file changes nothing else, and the path finds the file with its bytes if it
succeeds. -/
theorem ensures_writeFile (linkless : before.Linkless) {bytes : Bytes}
    {outcome : Except DiskFault Unit}
    (run : runOn (writeFile path bytes) before = (outcome, after)) :
    Ensures (fun _ => False) (· = path) path (.file bytes) outcome before after := by
  rcases outcome with fault | _
  · rw [eq_of_runOn_writeFile_error run]
    exact .of_error (.refl _ _ before)
  · rcases runOn_writeFile_eq_ok_iff.mp run with ⟨place, located, replaces, _, rfl⟩
    rcases changes_set_file linkless located replaces bytes with ⟨changes, finds⟩
    exact ⟨changes, fun _ => ⟨_, finds⟩⟩

end Disk

end ScriptSite
