import ScriptSite.Proofs.Disk.Links
import ScriptSite.Proofs.Site.Layout

/-!
# Finding the sources

Looking for the sources of a site changes nothing. The sources that are found are the files with the
extension of sources in the groups which are to be built, by the names of the groups and then by
their own names (`pairwise_and_mem_iff_of_runOn_sources`). So they are different from each other,
each has the path of a source, and each finds a file.

Whether a file is found is decided by four tests in a row: its group is listed in the root of the
input, is a directory and is to be built, and lists the file. For a path that finds a file only the
third of them can fail, because the directories on the way to a file are found as well.
-/

namespace ScriptSite

/-- Whether a path comes before another one when sources are listed: by the names of their groups,
and in a group by their own names. -/
def Path.Precedes (path other : Path) : Prop :=
  path.parent.name < other.parent.name ∨
    path.parent.name = other.parent.name ∧ path.name < other.name

theorem Path.Precedes.asymm {path other : Path} (before : path.Precedes other) :
    ¬other.Precedes path := by
  have asymm : ∀ {first second : Text}, first < second → ¬second < first := by
    intro first second before after
    rw [Text.lt_iff_le_and_ne] at before after
    exact before.2 (Text.le_antisymm before.1 after.1)
  rintro (after | ⟨same, after⟩)
  · rcases before with before | ⟨same, _⟩
    · exact asymm before after
    · rw [same] at after
      exact asymm after after
  · rcases before with before | ⟨_, before⟩
    · rw [same] at before
      exact asymm before before
    · exact asymm before after

theorem Path.Precedes.ne {path other : Path} (before : path.Precedes other) : path ≠ other := by
  rintro rfl
  exact before.asymm before

namespace SiteConfig

variable {config : SiteConfig} {disk before after : Disk} {path : Path} {group : Text}
  {sources : List Path}

theorem runOn_refuse (outcome : Except DiskError Bool) (disk : Disk) :
    runOn
      (match outcome with
        | .ok holds => pure holds
        | .error error => throw (.refused error) : DiskAction Failure Bool) disk =
      (outcome.mapError Failure.refused, disk) := by
  cases outcome <;> rfl

theorem runOn_isDirectory (path : Path) (disk : Disk) :
    runOn (isDirectory path) disk = ((disk.isDirectory path).mapError Failure.refused, disk) := by
  rw [isDirectory, runOn_bind, runOn_get]
  exact runOn_refuse (disk.isDirectory path) disk

theorem runOn_isFile (path : Path) (disk : Disk) :
    runOn (isFile path) disk = ((disk.isFile path).mapError Failure.refused, disk) := by
  rw [isFile, runOn_bind, runOn_get]
  exact runOn_refuse (disk.isFile path) disk

theorem runOn_isDirectory_eq_ok_iff {holds : Bool} :
    runOn (isDirectory path) before = (.ok holds, after) ↔
      before.isDirectory path = .ok holds ∧ after = before := by
  rw [runOn_isDirectory, Prod.mk.injEq, mapError_eq_ok_iff, eq_comm (a := before)]

theorem agrees_isDirectory (same : after.find path = before.find path) :
    Agrees (isDirectory path) before after := by
  refine ⟨_, runOn_isDirectory path before, ?_⟩
  rw [runOn_isDirectory, Disk.isDirectory, Disk.isDirectory, Disk.test, Disk.test, same]

theorem agrees_isFile (same : after.find path = before.find path) :
    Agrees (isFile path) before after := by
  refine ⟨_, runOn_isFile path before, ?_⟩
  rw [runOn_isFile, Disk.isFile, Disk.isFile, Disk.test, Disk.test, same]

theorem onlyLooks_isDirectory (path : Path) : OnlyLooks (isDirectory path) := by
  intro disk
  rw [runOn_isDirectory]

theorem onlyLooks_isFile (path : Path) : OnlyLooks (isFile path) := by
  intro disk
  rw [runOn_isFile]

theorem onlyLooks_requireDirectory (kind : InputKind) (path : Path) :
    OnlyLooks (requireDirectory kind path) := by
  refine (onlyLooks_isDirectory path).bind ?_
  intro holds disk
  cases holds <;> rfl

theorem onlyLooks_requireFile (kind : InputKind) (path : Path) :
    OnlyLooks (requireFile kind path) := by
  refine (onlyLooks_isFile path).bind ?_
  intro holds disk
  cases holds <;> rfl

theorem runOn_requireDirectory_eq_ok_iff {kind : InputKind} :
    runOn (requireDirectory kind path) before = (.ok (), after) ↔
      before.isDirectory path = .ok true ∧ after = before := by
  rw [requireDirectory, runOn_bind, runOn_isDirectory]
  rcases before.isDirectory path with _ | _ | _ <;> simp [Except.mapError, eq_comm]

theorem runOn_requireFile_eq_ok_iff {kind : InputKind} :
    runOn (requireFile kind path) before = (.ok (), after) ↔
      before.isFile path = .ok true ∧ after = before := by
  rw [requireFile, runOn_bind, runOn_isFile]
  rcases before.isFile path with _ | _ | _ <;> simp [Except.mapError, eq_comm]

theorem onlyLooks_children (path : Path) : OnlyLooks (children path) :=
  ((Disk.onlyLooks_list path).adapt _).bind fun _ _ => rfl

theorem runOn_children_of_findReadable {address : Address}
    (readable : disk.findReadable path = .ok (address, .directory)) :
    runOn (children path) disk = (.ok ((disk.sortedNames address).map path.child), disk) := by
  rw [children, runOn_bind, runOn_adapt, Disk.runOn_list_of_findReadable readable]
  rfl

theorem exists_of_runOn_children {paths : List Path}
    (run : runOn (children path) before = (.ok paths, after)) :
    ∃ address, before.findReadable path = .ok (address, .directory) ∧
      paths = (before.sortedNames address).map path.child ∧ after = before := by
  have same := (onlyLooks_children path).eq_of_runOn run
  rcases runOn_bind_eq_ok_iff.mp run with ⟨names, _, listed, mapped⟩
  rcases Disk.exists_of_runOn_list (runOn_adapt_eq_ok_iff.mp listed) with ⟨address, readable, rfl⟩
  cases mapped
  exact ⟨address, readable, rfl, same⟩

theorem onlyLooks_isSource (config : SiteConfig) (path : Path) :
    OnlyLooks (config.isSource path) := by
  refine (onlyLooks_isFile path).bind ?_
  intro holds disk
  cases holds <;> rfl

theorem agrees_isSource (same : after.find path = before.find path) :
    Agrees (config.isSource path) before after := by
  refine (agrees_isFile same).bind fun holds => ?_
  cases holds <;> exact ⟨_, rfl, rfl⟩

theorem onlyLooks_sourcesOf (config : SiteConfig) (group : Path) :
    OnlyLooks (config.sourcesOf group) := by
  refine (onlyLooks_isDirectory group).bind ?_
  intro holds
  cases holds with
  | false => exact fun _ => rfl
  | true =>
      simp only [Bool.not_true, Bool.false_eq_true, if_false]
      split
      · exact fun _ => rfl
      · exact (onlyLooks_children group).bind
          fun paths => OnlyLooks.filterM (onlyLooks_isSource config) paths

theorem onlyLooks_sources (config : SiteConfig) : OnlyLooks config.sources := by
  refine (onlyLooks_requireDirectory _ _).bind fun _ => ?_
  refine (OnlyLooks.forM (fun _ => onlyLooks_requireDirectory _ _) _).bind fun _ => ?_
  refine (onlyLooks_children _).bind fun groups => ?_
  exact (OnlyLooks.mapM (onlyLooks_sourcesOf config) groups).bind fun _ _ => rfl

theorem runOn_isSource_eq_true_iff :
    runOn (config.isSource path) before = (.ok true, before) ↔
      before.isFile path = .ok true ∧ Path.extension path.name = config.extension := by
  rw [isSource, runOn_bind, runOn_isFile]
  rcases before.isFile path with _ | _ | _ <;> simp [Except.mapError]

/-- Whether a path is that of a file with the extension of sources, in a group that is to be built.
-/
structure IsSourceOf (config : SiteConfig) (disk : Disk) (group : Text) (path : Path) : Prop where
  isSourcePath : ∃ name, config.IsSourcePath path group name
  isFile : disk.isFile path = .ok true
  isIncluded : config.includes group = true

theorem IsSourceOf.name_parent (isSource : config.IsSourceOf disk group path) :
    path.parent.name = group := by
  rcases isSource.isSourcePath with ⟨name, isPath⟩
  simp [isPath.eq_child, Path.name]

/-- A file in a group has a name, because the group lists it. -/
theorem isSourceOf_of_isFile (wellFormed : disk.WellFormed) {name : Text}
    (notUp : group ≠ Path.upName)
    (isFile : disk.isFile ((config.inputRoot.child group).child name) = .ok true)
    (extension : Path.extension name = config.extension)
    (included : config.includes group = true) :
    config.IsSourceOf disk group ((config.inputRoot.child group).child name) := by
  rcases Disk.exists_directory_of_isFile_child isFile with ⟨_, _, listed⟩
  rcases wellFormed.isName_of_mem_sortedNames listed with ⟨isName, nameNotUp⟩
  have visible : name ≠ [] := by
    rintro rfl
    simp [Path.isName] at isName
  exact ⟨⟨name, rfl, notUp, nameNotUp, visible, extension⟩, isFile, included⟩

/-- What a group gives: nothing if it is no directory or is not to be built, and otherwise those of
its entries that are sources. -/
theorem cases_of_runOn_sourcesOf {group : Path}
    (run : runOn (config.sourcesOf group) before = (.ok sources, after)) :
    sources = [] ∧ (before.isDirectory group = .ok false ∨ config.includes group.name = false) ∨
      ∃ directory, before.find group = .ok (directory, .directory) ∧
        config.includes group.name = true ∧
        sources.Sublist ((before.sortedNames directory).map group.child) ∧
        ∀ path, path ∈ sources ↔ path ∈ (before.sortedNames directory).map group.child ∧
          before.isFile path = .ok true ∧ Path.extension path.name = config.extension := by
  rw [sourcesOf, runOn_bind_eq_ok_iff] at run
  rcases run with ⟨holds, mid, tested, run⟩
  rcases runOn_isDirectory_eq_ok_iff.mp tested with ⟨isDirectory, rfl⟩
  cases holds with
  | false =>
      simp only [Bool.not_false, if_true, runOn_pure, Prod.mk.injEq, Except.ok.injEq] at run
      exact Or.inl ⟨run.1.symm, Or.inl isDirectory⟩
  | true =>
      simp only [Bool.not_true, Bool.false_eq_true, if_false] at run
      split at run
      · rename_i excluded
        simp only [runOn_pure, Prod.mk.injEq, Except.ok.injEq] at run
        exact Or.inl ⟨run.1.symm, Or.inr (by simpa using excluded)⟩
      · rename_i included
        rcases runOn_bind_eq_ok_iff.mp run with ⟨_, _, listed, run⟩
        rcases exists_of_runOn_children listed with ⟨directory, readable, rfl, rfl⟩
        rcases sublist_of_runOn_filterM (onlyLooks_isSource config) run with ⟨sublist, mem_iff⟩
        refine Or.inr ⟨directory, Disk.find_of_findReadable readable, by simpa using included,
          sublist, ?_⟩
        intro path
        rw [mem_iff, runOn_isSource_eq_true_iff]

theorem pairwise_of_runOn_sourcesOf (wellFormed : before.WellFormed) {group : Path}
    (run : runOn (config.sourcesOf group) before = (.ok sources, after)) :
    sources.Pairwise fun path other => path.name < other.name := by
  rcases cases_of_runOn_sourcesOf run with ⟨rfl, _⟩ | ⟨directory, _, _, sublist, _⟩
  · exact .nil
  · apply List.Pairwise.sublist sublist
    rw [List.pairwise_map]
    have sorted :=
      Text.pairwise_lt_of_pairwise_le (Text.pairwise_mergeSort (before.names directory))
        (wellFormed.nodup_sortedNames directory)
    refine sorted.imp ?_
    intro name other less
    simpa [Path.name] using less

theorem mem_iff_of_runOn_sourcesOf (wellFormed : before.WellFormed) (notUp : group ≠ Path.upName)
    (run : runOn (config.sourcesOf (config.inputRoot.child group)) before = (.ok sources, after)) :
    path ∈ sources ↔ config.IsSourceOf before group path := by
  have isName : (config.inputRoot.child group).name = group := by
    simp [Path.name]
  have cases := cases_of_runOn_sourcesOf run
  rw [isName] at cases
  constructor
  · intro mem
    rcases cases with ⟨rfl, _⟩ | ⟨directory, _, included, _, mem_iff⟩
    · cases mem
    · rcases (mem_iff path).mp mem with ⟨isChild, isFile, extension⟩
      rcases List.mem_map.mp isChild with ⟨name, _, rfl⟩
      apply isSourceOf_of_isFile wellFormed notUp isFile ?_ included
      simpa [Path.name] using extension
  · rintro ⟨⟨name, isPath⟩, isFile, included⟩
    have childIsFile := isFile
    rw [isPath.eq_child] at childIsFile
    rcases Disk.exists_directory_of_isFile_child childIsFile with ⟨directory, groupFound, listed⟩
    have isDirectory := Disk.isDirectory_eq_true_iff.mpr ⟨directory, groupFound⟩
    rcases cases with ⟨_, notDirectory | excluded⟩ | ⟨other, otherFound, _, _, mem_iff⟩
    · simp [isDirectory] at notDirectory
    · simp [included] at excluded
    · rw [groupFound, Except.ok.injEq, Prod.mk.injEq] at otherFound
      rw [← otherFound.1] at mem_iff
      refine (mem_iff path).mpr ⟨?_, isFile, ?_⟩
      · exact List.mem_map.mpr ⟨name, listed, isPath.eq_child.symm⟩
      · simpa [isPath.eq_child, Path.name] using isPath.extension_eq

/-- Looking for sources succeeds if the root of the input is a directory that may be listed, the
groups that are asked for are directories, and what is in each entry of the root can be looked at.
-/
theorem runOn_sources_eq_ok_iff :
    runOn config.sources before = (.ok sources, after) ↔
      (∃ directory lists, before.findReadable config.inputRoot = .ok (directory, .directory) ∧
        (∀ group ∈ config.groups.getD [],
          before.isDirectory (config.inputRoot.join (.ofText group)) = .ok true) ∧
        List.Forall₂ (fun name found =>
          runOn (config.sourcesOf (config.inputRoot.child name)) before = (.ok found, before))
          (before.sortedNames directory) lists ∧
        sources = lists.flatten) ∧ after = before := by
  have looks := onlyLooks_sourcesOf config
  have groupLooks : ∀ group : Text, OnlyLooks (requireDirectory .groupDirectory
      (config.inputRoot.join (.ofText group))) :=
    fun _ => onlyLooks_requireDirectory _ _
  rw [SiteConfig.sources]
  constructor
  · intro run
    rcases runOn_bind_eq_ok_iff.mp run with ⟨_, first, required, groupsRun⟩
    rcases runOn_requireDirectory_eq_ok_iff.mp required with ⟨_, rfl⟩
    rcases runOn_bind_eq_ok_iff.mp groupsRun with ⟨_, second, groupsRequired, search⟩
    rcases (runOn_forM_eq_ok_iff groupLooks).mp groupsRequired with ⟨eachGroup, rfl⟩
    rcases runOn_bind_eq_ok_iff.mp search with ⟨_, _, listed, search⟩
    rcases exists_of_runOn_children listed with ⟨directory, readable, rfl, rfl⟩
    rcases runOn_bind_eq_ok_iff.mp search with ⟨lists, last, searched, final⟩
    rcases (runOn_mapM_eq_ok_iff looks).mp searched with ⟨each, rfl⟩
    rw [runOn_pure, Prod.mk.injEq, Except.ok.injEq] at final
    refine ⟨⟨directory, lists, readable, ?_, ?_, final.1.symm⟩, final.2.symm⟩
    · intro group mem
      exact (runOn_requireDirectory_eq_ok_iff.mp (eachGroup group mem)).1
    · exact List.forall₂_map_left_iff.mp each
  · rintro ⟨⟨directory, lists, readable, eachGroup, each, rfl⟩, rfl⟩
    have isDirectory :=
      Disk.isDirectory_eq_true_iff.mpr ⟨directory, Disk.find_of_findReadable readable⟩
    refine runOn_bind_eq_ok_iff.mpr ⟨(), after, ?_, ?_⟩
    · exact runOn_requireDirectory_eq_ok_iff.mpr ⟨isDirectory, rfl⟩
    · refine runOn_bind_eq_ok_iff.mpr ⟨(), after, ?_, ?_⟩
      · refine (runOn_forM_eq_ok_iff groupLooks).mpr ⟨fun group mem => ?_, rfl⟩
        exact runOn_requireDirectory_eq_ok_iff.mpr ⟨eachGroup group mem, rfl⟩
      · rw [runOn_bind, runOn_children_of_findReadable readable]
        refine runOn_bind_eq_ok_iff.mpr ⟨lists, after, ?_, rfl⟩
        exact (runOn_mapM_eq_ok_iff looks).mpr ⟨List.forall₂_map_left_iff.mpr each, rfl⟩

theorem runOn_sources_of_findReadable {disk : Disk} {directory : Address}
    (readable : disk.findReadable config.inputRoot = .ok (directory, .directory))
    (all : config.groups = none) :
    runOn config.sources disk =
      runOn (((disk.sortedNames directory).map config.inputRoot.child).mapM config.sourcesOf >>=
        fun lists => pure lists.flatten) disk := by
  have isDirectory : disk.isDirectory config.inputRoot = .ok true :=
    Disk.isDirectory_eq_true_iff.mpr ⟨directory, Disk.find_of_findReadable readable⟩
  rw [sources, runOn_bind, runOn_requireDirectory_eq_ok_iff.mpr ⟨isDirectory, rfl⟩, all]
  simp only [Option.getD_none, List.forM, runOn_bind, runOn_pure,
    runOn_children_of_findReadable readable]

/-- The groups, one after the other, give the sources in order. -/
theorem pairwise_and_mem_iff_of_forall₂ (wellFormed : disk.WellFormed) {groups : List Text}
    {lists : List (List Path)} (sorted : groups.Pairwise (· < ·))
    (notUp : ∀ group ∈ groups, group ≠ Path.upName)
    (each : List.Forall₂ (fun group found =>
      runOn (config.sourcesOf (config.inputRoot.child group)) disk = (.ok found, disk))
      groups lists) :
    lists.flatten.Pairwise Path.Precedes ∧
      ∀ path, path ∈ lists.flatten ↔ ∃ group ∈ groups, config.IsSourceOf disk group path := by
  induction each with
  | nil => simp
  | @cons group found groups lists first _ ih =>
      rcases List.pairwise_cons.mp sorted with ⟨less, laterSorted⟩
      rcases List.forall_mem_cons.mp notUp with ⟨groupNotUp, laterNotUp⟩
      rcases ih laterSorted laterNotUp with ⟨pairwise, mem_iff⟩
      have isSourceOf : ∀ path, path ∈ found ↔ config.IsSourceOf disk group path := by
        intro path
        exact mem_iff_of_runOn_sourcesOf wellFormed groupNotUp first
      rw [List.flatten_cons]
      refine ⟨List.pairwise_append.mpr ⟨?_, pairwise, ?_⟩, ?_⟩
      · refine (pairwise_of_runOn_sourcesOf wellFormed first).imp_of_mem ?_
        intro path other mem otherMem nameLess
        have same := ((isSourceOf path).mp mem).name_parent
        rw [← ((isSourceOf other).mp otherMem).name_parent] at same
        exact Or.inr ⟨same, nameLess⟩
      · intro path mem other otherMem
        rcases (mem_iff other).mp otherMem with ⟨otherGroup, otherListed, otherSource⟩
        left
        rw [((isSourceOf path).mp mem).name_parent, otherSource.name_parent]
        exact less otherGroup otherListed
      · intro path
        rw [List.mem_append, isSourceOf, mem_iff, List.exists_mem_cons_iff]

/-- The sources that are found, by group and name, are all files with the extension of sources in
the groups that are to be built. -/
theorem pairwise_and_mem_iff_of_runOn_sources (wellFormed : before.WellFormed)
    (run : runOn config.sources before = (.ok sources, after)) :
    sources.Pairwise Path.Precedes ∧
      ∀ path, path ∈ sources ↔ ∃ group, config.IsSourceOf before group path := by
  rcases runOn_sources_eq_ok_iff.mp run with
    ⟨⟨directory, lists, readable, _, each, rfl⟩, _⟩
  have sorted :=
    Text.pairwise_lt_of_pairwise_le (Text.pairwise_mergeSort (before.names directory))
      (wellFormed.nodup_sortedNames directory)
  have notUp : ∀ group ∈ before.sortedNames directory, group ≠ Path.upName := by
    intro group mem
    exact (wellFormed.isName_of_mem_sortedNames mem).2
  rcases pairwise_and_mem_iff_of_forall₂ wellFormed sorted notUp each with ⟨pairwise, mem_iff⟩
  refine ⟨pairwise, fun path => ?_⟩
  rw [mem_iff]
  constructor
  · rintro ⟨group, _, isSource⟩
    exact ⟨group, isSource⟩
  · rintro ⟨group, isSource⟩
    rcases isSource.isSourcePath with ⟨name, isPath⟩
    have isFile := isSource.isFile
    rw [isPath.eq_child] at isFile
    rcases Disk.exists_directory_of_isFile_child isFile with ⟨_, groupFound, _⟩
    rcases Disk.exists_directory_of_find_child isPath.group_ne_upName groupFound with
      ⟨root, rootFound, listed⟩
    rw [Disk.find_of_findReadable readable, Except.ok.injEq, Prod.mk.injEq] at rootFound
    rw [← rootFound.1] at listed
    exact ⟨group, listed, isSource⟩

/-- Whether paths are the paths of different sources that a disk has. -/
structure AreSources (config : SiteConfig) (disk : Disk) (sources : List Path) : Prop where
  nodup : sources.Nodup
  isSource : ∀ source ∈ sources, ∃ group name, config.IsSourcePath source group name
  isFile : ∀ source ∈ sources, disk.isFile source = .ok true

/-- The sources that are found are sources, and looking for them changes nothing. -/
theorem areSources_of_runOn_sources (wellFormed : before.WellFormed)
    (run : runOn config.sources before = (.ok sources, after)) :
    after = before ∧ config.AreSources before sources := by
  refine ⟨(onlyLooks_sources config).eq_of_runOn run, ?_⟩
  rcases pairwise_and_mem_iff_of_runOn_sources wellFormed run with ⟨pairwise, mem_iff⟩
  constructor
  · exact pairwise.imp Path.Precedes.ne
  · intro source mem
    rcases (mem_iff source).mp mem with ⟨group, isSource⟩
    exact ⟨group, isSource.isSourcePath⟩
  · intro source mem
    rcases (mem_iff source).mp mem with ⟨_, isSource⟩
    exact isSource.isFile

end SiteConfig

end ScriptSite
