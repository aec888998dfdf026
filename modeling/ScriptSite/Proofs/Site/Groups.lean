import ScriptSite.Proofs.Site.Stops

/-!
# The groups that are asked for

A group that is asked for is checked in two ways which do not ask the same. First the text is read
as a path below the root of the input, and there must be a directory; later the names of the
directories in that root are looked up among the texts, as they are. A text like `g/` or `./g`
passes the check and is the name of no directory, so the group is left out and nobody is told.

The sources of a group are found if the text spells the path of an entry of the root whose name is
asked for (`SpellsGroup`), as a plain name does, and otherwise none of them is
(`mem_sources_iff_of_asked`). A run that fails has found no directory for a text, or the disk has
refused a look: a path is too long, or a directory may not be listed.
-/

namespace ScriptSite.SiteConfig

open Disk

variable {config : SiteConfig} {before : Disk} {directory path : Path} {group : Text}
  {groups : List Text}

/-- The path that a group is asked for with. -/
def groupPath (config : SiteConfig) (group : Text) : Path :=
  config.inputRoot.join (.ofText group)

/-- Whether a path is that of a file with the extension of sources, directly in a directory. -/
structure IsFileIn (config : SiteConfig) (disk : Disk) (directory path : Path) : Prop where
  isChild : ∃ name, path = directory.child name
  isFile : disk.isFile path = .ok true
  extension_eq : Path.extension path.name = config.extension

/-- Whether the text that a group is asked for with spells the path of an entry of the root of the
input, and the name of that entry is asked for. -/
def SpellsGroup (config : SiteConfig) (group : Text) : Prop :=
  ∃ name, name ≠ Path.upName ∧ config.groupPath group = config.inputRoot.child name ∧
    config.includes name = true

/-- A plain name that is asked for spells its group. -/
theorem spellsGroup_of_isName (asked : config.groups = some groups) (mem : group ∈ groups)
    (isName : Path.isName group = true) (plain : '/' ∉ group) (notUp : group ≠ Path.upName) :
    config.SpellsGroup group := by
  refine ⟨group, notUp, ?_, ?_⟩
  · rw [groupPath, Path.ofText_of_isName isName plain]
    rfl
  · simp [includes, asked, mem]

theorem IsFileIn.isSourceOf_iff (wellFormed : before.WellFormed)
    (isFileIn : config.IsFileIn before (config.groupPath group) path) :
    (∃ name, config.IsSourceOf before name path) ↔ config.SpellsGroup group := by
  rcases isFileIn.isChild with ⟨file, isChild⟩
  constructor
  · rintro ⟨name, isSource⟩
    rcases isSource.isSourcePath with ⟨inner, isPath⟩
    refine ⟨name, isPath.group_ne_upName, ?_, isSource.isIncluded⟩
    have same := congrArg Path.parent (isChild.symm.trans isPath.eq_child)
    rwa [Path.parent_child, Path.parent_child] at same
  · rintro ⟨name, notUp, spelled, included⟩
    have isFile := isFileIn.isFile
    have extension := isFileIn.extension_eq
    rw [isChild, spelled] at isFile extension ⊢
    refine ⟨name, isSourceOf_of_isFile wellFormed notUp isFile ?_ included⟩
    simpa [Path.name] using extension

/-- Looking for the sources of the groups that are asked for fails because one of them or the root
is missing, or because the disk refuses a look. Otherwise all files of a group are found if its text
spells the path of a group that is asked for by name, as a plain name does, and none if not. -/
theorem mem_sources_iff_of_asked (wellFormed : before.WellFormed)
    (asked : config.groups = some groups) :
    (∀ failure after, runOn config.sources before = (.error failure, after) →
      config.StopsLooking before failure) ∧
    (∀ group ∈ groups, Path.isName group = true → '/' ∉ group → group ≠ Path.upName →
      config.SpellsGroup group) ∧
    ∀ sources after, runOn config.sources before = (.ok sources, after) →
      ∀ group ∈ groups, before.isDirectory (config.groupPath group) = .ok true ∧
        ∀ path, config.IsFileIn before (config.groupPath group) path →
          (path ∈ sources ↔ config.SpellsGroup group) := by
  refine ⟨?_, fun group mem => spellsGroup_of_isName asked mem, ?_⟩
  · intro failure after run
    have same := (onlyLooks_sources config).eq_of_runOn run
    rw [same] at run
    exact stopsOnly_sources config _ _ _ run
  · intro sources after run group mem
    have mem_iff := (pairwise_and_mem_iff_of_runOn_sources wellFormed run).2
    rcases runOn_sources_eq_ok_iff.mp run with ⟨⟨_, _, _, eachGroup, _⟩, _⟩
    rw [asked] at eachGroup
    refine ⟨eachGroup group mem, ?_⟩
    intro path isFileIn
    rw [mem_iff, isFileIn.isSourceOf_iff wellFormed]

/-- A site with two groups, one of which is asked for with a slash behind its name. -/
def slashed : SiteConfig where
  inputRoot := { slashes := 1, names := ["p".toList, "src".toList] }
  outputRoot := { slashes := 1, names := ["p".toList, "html".toList] }
  assetDirectories := []
  assetFiles := []
  extension := ".bip".toList
  indexCatalog := "index.xml".toList
  demosCatalog := "demos.xml".toList
  siteName := Page.defaultSiteName
  groups := some ["g/".toList, "h".toList]

def slashedDisk : Disk where
  entries :=
    [(["p".toList], .directory), (["p".toList, "src".toList], .directory),
      (["p".toList, "src".toList, "g".toList], .directory),
      (["p".toList, "src".toList, "g".toList, "a.bip".toList], .file (Utf8.encode "# T\n".toList)),
      (["p".toList, "src".toList, "h".toList], .directory),
      (["p".toList, "src".toList, "h".toList, "b.bip".toList], .file (Utf8.encode "# T\n".toList))]

/-- The sources in the two groups of that site. -/
def slashedSource : Path :=
  (slashed.inputRoot.child "g".toList).child "a.bip".toList

def plainSource : Path :=
  (slashed.inputRoot.child "h".toList).child "b.bip".toList

theorem runOn_sources_slashed :
    runOn slashed.sources slashedDisk = (.ok [plainSource], slashedDisk) := by
  have found : (runOn slashed.sources slashedDisk).1 = .ok [plainSource] := by
    delta sources sourcesOf children Disk.list
    rw [sortedNames_eq_insertionSort]
    decide +kernel
  exact (onlyLooks_sources slashed).runOn_eq found

theorem isFileIn_slashed :
    slashed.IsFileIn slashedDisk (slashed.groupPath "g/".toList) slashedSource where
  isChild := ⟨"a.bip".toList, rfl⟩
  isFile := by decide +kernel
  extension_eq := by decide

/-- The group with a slash behind its name is skipped: it is there, and has a source, which is not
found. -/
theorem skips_slashed_group :
    slashed.groups = some ["g/".toList, "h".toList] ∧ slashedDisk.WellFormed ∧
      slashed.IsFileIn slashedDisk (slashed.groupPath "g/".toList) slashedSource ∧
      ∃ sources, runOn slashed.sources slashedDisk = (.ok sources, slashedDisk) ∧
        slashedSource ∉ sources :=
  ⟨rfl, ⟨by decide, by decide⟩, isFileIn_slashed, _, runOn_sources_slashed, by decide⟩

/-- The theorem about the groups that are asked for, where only one of two is asked for by name. -/
theorem spellsGroup_slashed :
    slashedDisk.WellFormed ∧ slashed.groups = some ["g/".toList, "h".toList] ∧
      ¬slashed.SpellsGroup "g/".toList ∧ slashed.SpellsGroup "h".toList := by
  have isFileIn : slashed.IsFileIn slashedDisk (slashed.groupPath "h".toList) plainSource :=
    ⟨⟨"b.bip".toList, rfl⟩, by decide +kernel, by decide⟩
  have wellFormed : slashedDisk.WellFormed := ⟨by decide, by decide⟩
  have mem_iff := (mem_sources_iff_of_asked wellFormed rfl).2.2 _ _ runOn_sources_slashed
  refine ⟨wellFormed, rfl, ?_, ?_⟩
  · rw [← (mem_iff "g/".toList (by decide)).2 _ isFileIn_slashed]
    decide
  · exact ((mem_iff "h".toList (by decide)).2 _ isFileIn).mp List.mem_cons_self

end ScriptSite.SiteConfig
