import ScriptSite.Proofs.Site.Discovery

/-!
# Which sources are found

The sources of a site are a set in order: whoever knows which paths are sources, and how two of them
are ordered, knows the list (`sources_of_runOn_sources`). Neither the order in which a disk lists
its entries nor the order in which groups are asked for, or how often, makes a difference, and
asking for groups selects from the sources of the whole site.

The first of these holds because only sorted names are looked through, the others because the groups
that are asked for are used in two ways only: each of them must be there, and the name of a
directory is looked up among them.
-/

namespace ScriptSite

/-- Paths can be listed in order in one way only. -/
theorem Path.eq_of_pairwise_precedes {paths others : List Path}
    (sorted : paths.Pairwise Path.Precedes) (otherSorted : others.Pairwise Path.Precedes)
    (same : ∀ path, path ∈ paths ↔ path ∈ others) : paths = others := by
  have perm := (List.perm_ext_iff_of_nodup (sorted.imp Path.Precedes.ne)
    (otherSorted.imp Path.Precedes.ne)).mpr same
  apply perm.eq_of_pairwise ?_ sorted otherSorted
  intro path other _ _ before after
  exact absurd after before.asymm

namespace Disk.Alike

variable {disk other : Disk}

theorem agrees_list (alike : disk.Alike other) (path : Path) :
    Agrees (Disk.list path) disk other := by
  have same : (runOn (Disk.list path) other).1 = (runOn (Disk.list path) disk).1 := by
    rw [Disk.list, runOn_bind, runOn_bind, runOn_get, runOn_get]
    simp only [alike.find_eq, alike.sortedNames_eq, alike.denies_eq]
    rcases disk.find path with fault | ⟨address, _ | _ | _ | _⟩
    · rfl
    · rfl
    · cases denied : disk.denies .reading address <;> simp [denied]
    · rfl
    · rfl
  exact ⟨_, (onlyLooks_list path).runOn_eq rfl, (onlyLooks_list path).runOn_eq same⟩

end Disk.Alike

namespace SiteConfig

variable {config : SiteConfig} {disk other before after : Disk} {path : Path}
  {groups groups' : Option (List Text)} {sources : List Path}

theorem agrees_requireDirectory (alike : disk.Alike other) (kind : InputKind) (path : Path) :
    Agrees (requireDirectory kind path) disk other := by
  refine (agrees_isDirectory (alike.find_eq path)).bind fun holds => ?_
  cases holds <;> exact ⟨_, rfl, rfl⟩

theorem agrees_children (alike : disk.Alike other) (path : Path) :
    Agrees (children path) disk other :=
  ((alike.agrees_list path).adapt _).bind fun _ => .pure _ _ _

theorem agrees_sourcesOf (alike : disk.Alike other) (config : SiteConfig) (group : Path) :
    Agrees (config.sourcesOf group) disk other := by
  refine (agrees_isDirectory (alike.find_eq group)).bind fun holds => ?_
  cases holds with
  | false => exact .pure _ _ _
  | true =>
      simp only [Bool.not_true, Bool.false_eq_true, if_false]
      split
      · exact .pure _ _ _
      · refine (agrees_children alike group).bind fun paths => ?_
        exact .filterM (fun path => agrees_isSource (alike.find_eq path)) paths

/-- Disks that list the same entries in different orders have the same sources. -/
theorem agrees_sources (alike : disk.Alike other) (config : SiteConfig) :
    Agrees config.sources disk other := by
  refine (agrees_requireDirectory alike _ _).bind fun _ => ?_
  refine (Agrees.forM (fun _ => agrees_requireDirectory alike _ _) _).bind fun _ => ?_
  refine (agrees_children alike _).bind fun paths => ?_
  exact (Agrees.mapM (agrees_sourcesOf alike config) paths).bind fun _ => .pure _ _ _

theorem sourcesOf_groups {group : Path}
    (same : { config with groups }.includes group.name =
      { config with groups := groups' }.includes group.name) :
    { config with groups }.sourcesOf group = { config with groups := groups' }.sourcesOf group := by
  rw [sourcesOf, sourcesOf, same]
  rfl

/-- Groups are asked for by their names, however they are listed. -/
theorem runOn_sources_groups {names again : List Text} (same : ∀ name, name ∈ again ↔ name ∈ names)
    (run : runOn { config with groups := some names }.sources before = (.ok sources, after)) :
    runOn { config with groups := some again }.sources before = (.ok sources, after) := by
  rcases runOn_sources_eq_ok_iff.mp run with
    ⟨⟨directory, lists, found, eachGroup, each, flat⟩, unchanged⟩
  refine runOn_sources_eq_ok_iff.mpr ⟨⟨directory, lists, found, ?_, ?_, flat⟩, unchanged⟩
  · intro group mem
    exact eachGroup group ((same group).mp mem)
  · refine each.imp fun name found run => ?_
    have sameIncludes : ∀ name, { config with groups := some again }.includes name =
        { config with groups := some names }.includes name := by
      intro name
      rw [Bool.eq_iff_iff]
      simp [includes, same]
    rw [sourcesOf_groups (sameIncludes _)]
    exact run

theorem isSourceOf_iff_of_none {group : Text} :
    config.IsSourceOf disk group path ↔
      { config with groups := none }.IsSourceOf disk group path ∧ config.includes group = true := by
  constructor
  · intro isSource
    rcases isSource.isSourcePath with ⟨name, isPath⟩
    exact ⟨⟨⟨name, { isPath with }⟩, isSource.isFile, rfl⟩, isSource.isIncluded⟩
  · rintro ⟨isSource, included⟩
    rcases isSource.isSourcePath with ⟨name, isPath⟩
    exact ⟨⟨name, { isPath with }⟩, isSource.isFile, included⟩

/-- The directory of a source is found where the source is. -/
theorem IsSourceOf.isDirectory_parent {group : Text}
    (isSource : config.IsSourceOf disk group path) : disk.isDirectory path.parent = .ok true := by
  rcases isSource.isSourcePath with ⟨name, isPath⟩
  have isFile := isSource.isFile
  rw [isPath.eq_child] at isFile ⊢
  rcases Disk.exists_directory_of_isFile_child isFile with ⟨directory, above, _⟩
  rw [Path.parent_child]
  exact Disk.isDirectory_eq_true_iff.mpr ⟨directory, above⟩

/-- The sources that are found are in strict order by the names of their directories and their own,
and they are exactly the files with the extension of sources whose directory is one directly below
the root of the input, and is asked for if groups are. The order in which the disk lists its entries
makes no difference. With groups they are selected from those without groups, and neither the order
of the groups nor repetitions make a difference. -/
theorem sources_of_runOn_sources (wellFormed : before.WellFormed)
    (run : runOn config.sources before = (.ok sources, after)) :
    sources.Pairwise Path.Precedes ∧
      (∀ path, path ∈ sources ↔ ∃ group name, config.IsSourcePath path group name ∧
        before.isDirectory path.parent = .ok true ∧ before.isFile path = .ok true ∧
        ∀ groups, config.groups = some groups → group ∈ groups) ∧
      (∀ other : Disk, other.current = before.current → other.denies = before.denies →
        other.entries.Perm before.entries → runOn config.sources other = (.ok sources, other)) ∧
      (∀ all, runOn { config with groups := none }.sources before = (.ok all, before) →
        sources = all.filter fun path => config.includes path.parent.name) ∧
      ∀ groups again, config.groups = some groups → (∀ name, name ∈ again ↔ name ∈ groups) →
        runOn { config with groups := some again }.sources before = (.ok sources, before) := by
  have unchanged := (onlyLooks_sources config).eq_of_runOn run
  subst unchanged
  rcases pairwise_and_mem_iff_of_runOn_sources wellFormed run with ⟨sorted, mem_iff⟩
  refine ⟨sorted, ?_, ?_, ?_, ?_⟩
  · intro path
    have includes_iff : ∀ group, config.includes group = true ↔
        ∀ groups, config.groups = some groups → group ∈ groups := by
      intro group
      rw [includes, Option.all_eq_true_iff_get]
      cases config.groups <;> simp
    rw [mem_iff]
    constructor
    · rintro ⟨group, isSource⟩
      rcases isSource.isSourcePath with ⟨name, isPath⟩
      exact ⟨group, name, isPath, isSource.isDirectory_parent, isSource.isFile,
        (includes_iff group).mp isSource.isIncluded⟩
    · rintro ⟨group, name, isPath, _, isFile, asked⟩
      exact ⟨group, ⟨name, isPath⟩, isFile, (includes_iff group).mpr asked⟩
  · intro other current denies perm
    rcases agrees_sources ⟨current, denies, perm, wellFormed.nodup⟩ config with
      ⟨outcome, first, second⟩
    rw [run, Prod.mk.injEq] at first
    rw [second, first.1]
  · intro all runAll
    rcases pairwise_and_mem_iff_of_runOn_sources wellFormed runAll with ⟨allSorted, all_mem_iff⟩
    apply Path.eq_of_pairwise_precedes sorted (allSorted.filter _)
    intro path
    rw [mem_iff, List.mem_filter, all_mem_iff]
    constructor
    · rintro ⟨group, isSource⟩
      rw [isSource.name_parent]
      rcases isSourceOf_iff_of_none.mp isSource with ⟨isOne, included⟩
      exact ⟨⟨group, isOne⟩, included⟩
    · rintro ⟨⟨group, isOne⟩, included⟩
      rw [isOne.name_parent] at included
      exact ⟨group, isSourceOf_iff_of_none.mpr ⟨isOne, included⟩⟩
  · intro groups again asked same
    apply runOn_sources_groups same
    rw [← asked]
    exact run

/-- A site with more in it than sources: files beside the groups, directories in them, a directory
with the name of a source, a name that begins with a dot, and a link to a group. -/
def crowded : SiteConfig where
  inputRoot := { slashes := 1, names := ["s".toList] }
  outputRoot := { slashes := 1, names := ["html".toList] }
  assetDirectories := []
  assetFiles := []
  extension := ".bip".toList
  indexCatalog := "index.xml".toList
  demosCatalog := "demos.xml".toList
  siteName := Page.defaultSiteName
  groups := some ["l".toList, "c.bip".toList, "l".toList]

def crowdedDisk : Disk where
  entries :=
    [(["s".toList], .directory), (["s".toList, "top.bip".toList], .file []),
      (["s".toList, "l".toList], .link "b".toList), (["s".toList, "b".toList], .directory),
      (["s".toList, "b".toList, "z.bip".toList], .file []),
      (["s".toList, "b".toList, "x.tar.bip".toList], .file []),
      (["s".toList, "b".toList, ".bip".toList], .file []),
      (["s".toList, "b".toList, "a.bip".toList], .unreadable),
      (["s".toList, "b".toList, "notes.txt".toList], .file []),
      (["s".toList, "b".toList, "d.bip".toList], .directory),
      (["s".toList, "b".toList, "d.bip".toList, "q.bip".toList], .file []),
      (["s".toList, "c.bip".toList], .directory),
      (["s".toList, "c.bip".toList, "y.bip".toList], .file [])]

def crowdedSources : List Path :=
  let group := crowded.inputRoot.child "l".toList
  [(crowded.inputRoot.child "c.bip".toList).child "y.bip".toList, group.child "a.bip".toList,
    group.child "x.tar.bip".toList, group.child "z.bip".toList]

/-- The sources of that site, whatever the order in which the disk lists its entries and the groups
are asked for. -/
theorem sources_of_crowded :
    runOn crowded.sources crowdedDisk = (.ok crowdedSources, crowdedDisk) ∧
      crowdedSources.Pairwise Path.Precedes ∧
      (∀ other : Disk, other.current = crowdedDisk.current →
        other.denies = crowdedDisk.denies → other.entries.Perm crowdedDisk.entries →
        runOn crowded.sources other = (.ok crowdedSources, other)) ∧
      runOn { crowded with groups := some ["c.bip".toList, "l".toList] }.sources crowdedDisk =
        (.ok crowdedSources, crowdedDisk) := by
  have found : (runOn crowded.sources crowdedDisk).1 = .ok crowdedSources := by
    delta sources sourcesOf children Disk.list
    rw [Disk.sortedNames_eq_insertionSort]
    decide +kernel
  have run := (onlyLooks_sources crowded).runOn_eq found
  rcases sources_of_runOn_sources ⟨by decide, by decide⟩ run with
    ⟨sorted, _, anyOrder, _, anyGroups⟩
  refine ⟨run, sorted, anyOrder, anyGroups _ _ rfl ?_⟩
  intro name
  simp [or_comm]

end SiteConfig

end ScriptSite
