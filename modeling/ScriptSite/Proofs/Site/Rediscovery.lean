import ScriptSite.Proofs.Disk.Look
import ScriptSite.Proofs.Disk.Rights
import ScriptSite.Proofs.Site.Output
import ScriptSite.Proofs.Text.Order

/-!
# Finding the sources again

Nothing is written into the root of the input, but directories may be made there, on the way to the
root of the output. There is no source in them, so when the sources are looked for again the same
ones are found (`SparesInput.gives_sources`). Only the path of such a directory can be in the way: a
disk refuses to look at it if it is too long (`Obstructs`).
-/

namespace ScriptSite

open Disk

namespace Disk

variable {before after : Disk} {path : Path} {directory : Address}

/-- Whether something is at the address of a path. -/
def has (disk : Disk) (path : Path) : Bool :=
  (disk.get? (disk.addressOf path)).isSome

/-- The entries that a directory had are those of its entries now that were there. -/
theorem map_child_sortedNames (orderly : before.Orderly) (afterOrderly : after.Orderly)
    (isPath : directory = before.addressOf path)
    (kept : ∀ name, before.get? (directory ++ [name]) ≠ none →
      after.get? (directory ++ [name]) ≠ none) :
    (before.sortedNames directory).map path.child =
      ((after.sortedNames directory).map path.child).filter before.has := by
  have names : before.sortedNames directory = (after.sortedNames directory).filter fun name =>
      (before.get? (directory ++ [name])).isSome := by
    refine Text.eq_of_pairwise_of_mem_iff (Text.pairwise_mergeSort _)
      ((Text.pairwise_mergeSort _).filter _) (nodup_sortedNames orderly.nodup _)
      ((nodup_sortedNames afterOrderly.nodup _).filter _) fun name => ?_
    rw [List.mem_filter, mem_sortedNames_iff, mem_sortedNames_iff, Option.isSome_iff_ne_none]
    exact ⟨fun there => ⟨kept name there, there⟩, And.right⟩
  rw [names, List.filter_map]
  refine congrArg _ (List.filter_congr fun name mem => ?_)
  have notUp := afterOrderly.ne_up directory name (mem_sortedNames_iff.mp mem)
  rw [Function.comp, has, addressOf_child notUp, isPath]

end Disk

namespace SiteConfig

variable {config : SiteConfig} {before after : Disk} {path group : Path} {name : Text}
  {directory : Address} {sources : List Path}

/-- Whether a directory has been made below the root of the input that a disk refuses to look at. -/
structure Obstructs (config : SiteConfig) (before after : Disk) (path : Path) : Prop where
  isWithin : path.IsWithin config.inputRoot
  absent : before.get? (before.addressOf path) = none
  made : after.get? (before.addressOf path) = some .directory
  tooLong : after.find path = .error (.refused .nameTooLong)

/-- Whether a failure is that of looking at a directory which has been made. -/
def IsObstructed (config : SiteConfig) (before after : Disk) (failure : Failure) : Prop :=
  failure = .refused .nameTooLong ∧ ∃ path, config.Obstructs before after path

/-- Whether nothing has happened in the root of the input but that directories have been made. -/
structure SparesInput (config : SiteConfig) (before after : Disk) : Prop where
  orderly : before.Orderly
  isTree : before.IsTree
  afterOrderly : after.Orderly
  keeps : KeepsDirectories before after
  loosens : Loosens before after
  gains : ∀ path : Path, path.IsWithin config.inputRoot →
    after.get? (before.addressOf path) = before.get? (before.addressOf path) ∨
      before.get? (before.addressOf path) = none ∧
        after.get? (before.addressOf path) = some .directory

namespace SparesInput

theorem kept (spares : config.SparesInput before after) (within : path.IsWithin config.inputRoot)
    (there : before.get? (before.addressOf path) ≠ none) :
    after.get? (before.addressOf path) = before.get? (before.addressOf path) := by
  rcases spares.gains path within with same | ⟨absent, _⟩
  · exact same
  · exact absurd absent there

theorem map_child_sortedNames (spares : config.SparesInput before after)
    (within : path.IsWithin config.inputRoot) (isPath : directory = before.addressOf path) :
    (before.sortedNames directory).map path.child =
      ((after.sortedNames directory).map path.child).filter before.has := by
  refine Disk.map_child_sortedNames spares.orderly spares.afterOrderly isPath fun name there => ?_
  have notUp := spares.orderly.ne_up directory name there
  rw [isPath, ← addressOf_child notUp] at there ⊢
  rwa [spares.kept ((Path.isWithin_child notUp path).trans within) there]

theorem find_child_eq (spares : config.SparesInput before after)
    (within : path.IsWithin config.inputRoot) (notUp : name ≠ Path.upName)
    (found : before.find path = .ok (directory, .directory))
    (there : before.has (path.child name) = true) :
    after.find (path.child name) = before.find (path.child name) := by
  have same := spares.kept ((Path.isWithin_child notUp path).trans within)
    (Option.isSome_iff_ne_none.mp there)
  rw [addressOf_child notUp, ← address_eq_of_find spares.orderly.linkless found] at same
  exact Disk.find_child_eq spares.orderly.linkless spares.keeps found same

/-- What could be read in the input and is still found can still be read. -/
theorem findReadable_eq (spares : config.SparesInput before after)
    (readable : before.findReadable path = .ok (directory, .directory))
    (found : after.find path = .ok (directory, .directory)) :
    after.findReadable path = .ok (directory, .directory) :=
  findReadable_eq_ok_iff.mpr
    ⟨found, spares.loosens.denies_eq_false (findReadable_eq_ok_iff.mp readable).2⟩

/-- What is new is a directory, which may be listed unless it has too long a path or one that cannot
be named. -/
theorem find_child_cases (spares : config.SparesInput before after)
    (within : path.IsWithin config.inputRoot) (notUp : name ≠ Path.upName)
    (found : after.find path = .ok (directory, .directory))
    (mem : name ∈ after.sortedNames directory) (new : before.has (path.child name) = false) :
    (∃ address, after.findReadable (path.child name) = .ok (address, .directory)) ∨
      config.Obstructs before after (path.child name) ∨
      after.find (path.child name) = .error .unnameable := by
  have inside := (Path.isWithin_child notUp path).trans within
  have absent : before.get? (before.addressOf (path.child name)) = none := by
    rwa [has, Option.isSome_eq_false_iff, Option.isNone_iff_eq_none] at new
  have isPath := address_eq_of_find spares.afterOrderly.linkless found
  rw [addressOf_congr spares.keeps.current_eq] at isPath
  have isDirectory : after.get? (before.addressOf (path.child name)) = some .directory := by
    rcases spares.gains _ inside with same | ⟨_, isDirectory⟩
    · rw [mem_sortedNames_iff, isPath, ← addressOf_child notUp, same] at mem
      exact absurd absent mem
    · exact isDirectory
  have there : after.get? (directory ++ [name]) = some .directory := by
    rwa [isPath, ← addressOf_child notUp]
  rcases Disk.find_child_cases spares.afterOrderly.linkless notUp found there with
    isFound | tooLong | unnameable
  · rw [isPath, ← addressOf_child notUp] at isFound
    exact Or.inl ⟨_, findReadable_eq_ok_iff.mpr
      ⟨isFound, spares.loosens.denies_of_new absent (by simp [isDirectory])⟩⟩
  · exact Or.inr (Or.inl ⟨inside, absent, isDirectory, tooLong⟩)
  · exact Or.inr (Or.inr unnameable)

end SparesInput

/-- Whether an action gives something on a disk, unless a directory is in the way that has been
made. -/
abbrev StillGives {α : Type} (config : SiteConfig) (before after : Disk)
    (action : DiskAction Failure α) (a : α) : Prop :=
  Gives (config.IsObstructed before after) action after a

theorem Obstructs.stillGives_isDirectory {holds : Bool}
    (obstructs : config.Obstructs before after path) :
    config.StillGives before after (isDirectory path) holds := by
  refine Or.inr ⟨.refused .nameTooLong, ⟨rfl, path, obstructs⟩, ?_⟩
  rw [runOn_isDirectory, Disk.isDirectory, Disk.test, obstructs.tooLong]
  rfl

theorem Obstructs.stillGives_isFile {holds : Bool}
    (obstructs : config.Obstructs before after path) :
    config.StillGives before after (isFile path) holds := by
  refine Or.inr ⟨.refused .nameTooLong, ⟨rfl, path, obstructs⟩, ?_⟩
  rw [runOn_isFile, Disk.isFile, Disk.test, obstructs.tooLong]
  rfl

namespace SparesInput

/-- A directory that has been made is no source. -/
theorem stillGives_isSource (spares : config.SparesInput before after)
    (within : path.IsWithin config.inputRoot) (notUp : name ≠ Path.upName)
    (found : after.find path = .ok (directory, .directory))
    (mem : name ∈ after.sortedNames directory) (new : before.has (path.child name) = false) :
    config.StillGives before after (config.isSource (path.child name)) false := by
  have isFile : config.StillGives before after (isFile (path.child name)) false := by
    rcases spares.find_child_cases within notUp found mem new with
      ⟨address, isFound⟩ | obstructs | unnameable
    · refine .of_ok ?_
      rw [runOn_isFile, Disk.isFile, Disk.test, find_of_findReadable isFound]
      rfl
    · exact obstructs.stillGives_isFile
    · refine .of_ok ?_
      rw [runOn_isFile, Disk.isFile, Disk.test, unnameable]
      rfl
  exact isFile.bind (.pure _ _ _)

/-- Among the entries of a group the same are sources. -/
theorem stillGives_filterM (spares : config.SparesInput before after)
    (within : group.IsWithin config.inputRoot)
    (readable : after.findReadable group = .ok (directory, .directory))
    (same : ∀ name ∈ after.sortedNames directory, before.has (group.child name) = true →
      after.find (group.child name) = before.find (group.child name))
    (first : runOn ((((after.sortedNames directory).map group.child).filter before.has).filterM
      config.isSource) before = (.ok sources, before)) :
    config.StillGives before after
      (children group >>= fun paths => paths.filterM config.isSource) sources := by
  have found := find_of_findReadable readable
  refine (Gives.of_ok (runOn_children_of_findReadable readable)).bind ?_
  refine Gives.filterM (onlyLooks_isSource config) first ?_ ?_
  · intro path mem old keeps run
    rcases List.mem_map.mp mem with ⟨name, nameMem, rfl⟩
    exact .of_agrees (agrees_isSource (same name nameMem old)) run
  · intro path mem new
    rcases List.mem_map.mp mem with ⟨name, nameMem, rfl⟩
    have notUp := spares.afterOrderly.ne_up directory name (mem_sortedNames_iff.mp nameMem)
    exact spares.stillGives_isSource within notUp found nameMem new

/-- A group has the sources that it had. -/
theorem stillGives_sourcesOf (spares : config.SparesInput before after)
    (within : group.IsWithin config.inputRoot) (same : after.find group = before.find group)
    (run : runOn (config.sourcesOf group) before = (.ok sources, before)) :
    config.StillGives before after (config.sourcesOf group) sources := by
  rw [sourcesOf, runOn_bind_eq_ok_iff] at run
  rcases run with ⟨holds, mid, tested, run⟩
  rcases runOn_isDirectory_eq_ok_iff.mp tested with ⟨isDirectory, rfl⟩
  refine (Gives.of_agrees (agrees_isDirectory same) tested).bind ?_
  cases holds with
  | false =>
      cases run
      exact .pure _ _ _
  | true =>
      simp only [Bool.not_true, Bool.false_eq_true, if_false] at run ⊢
      split at run
      · rename_i excluded
        rw [if_pos excluded]
        cases run
        exact .pure _ _ _
      · rename_i included
        rw [if_neg included]
        rcases runOn_bind_eq_ok_iff.mp run with ⟨_, _, listed, run⟩
        rcases exists_of_runOn_children listed with ⟨directory, readable, rfl, rfl⟩
        have found := find_of_findReadable readable
        have linkless := spares.orderly.linkless
        rw [spares.map_child_sortedNames within (address_eq_of_find linkless found)] at run
        refine spares.stillGives_filterM within
          (spares.findReadable_eq readable (same.trans found)) ?_ run
        intro name mem there
        have notUp := spares.afterOrderly.ne_up directory name (mem_sortedNames_iff.mp mem)
        exact spares.find_child_eq within notUp found there

/-- A group that has been made has no sources. -/
theorem stillGives_sourcesOf_of_new (spares : config.SparesInput before after)
    (notUp : name ≠ Path.upName)
    (found : after.find config.inputRoot = .ok (directory, .directory))
    (mem : name ∈ after.sortedNames directory)
    (new : before.has (config.inputRoot.child name) = false) :
    config.StillGives before after (config.sourcesOf (config.inputRoot.child name)) [] := by
  have within := Path.isWithin_child notUp config.inputRoot
  rcases spares.find_child_cases (Path.isWithin_refl _) notUp found mem new with
    ⟨address, isFound⟩ | obstructs | unnameable
  · have isDirectory : after.isDirectory (config.inputRoot.child name) = .ok true :=
      isDirectory_eq_true_iff.mpr ⟨address, find_of_findReadable isFound⟩
    refine (Gives.of_ok (runOn_isDirectory_eq_ok_iff.mpr ⟨isDirectory, rfl⟩)).bind ?_
    simp only [Bool.not_true, Bool.false_eq_true, if_false]
    split
    · exact .pure _ _ _
    · have isPath := address_eq_of_find spares.afterOrderly.linkless (find_of_findReadable isFound)
      rw [addressOf_congr spares.keeps.current_eq] at isPath
      have allNew : ∀ inner ∈ after.sortedNames address,
          before.has ((config.inputRoot.child name).child inner) = false := by
        intro inner innerMem
        have innerNotUp := spares.afterOrderly.ne_up address inner (mem_sortedNames_iff.mp innerMem)
        rw [has, Option.isSome_eq_false_iff, Option.isNone_iff_eq_none] at new ⊢
        by_contra there
        rw [addressOf_child innerNotUp] at there
        have isDirectory := spares.isTree.parent _ _ there
        simp [new] at isDirectory
      refine spares.stillGives_filterM within isFound ?_ ?_
      · intro inner innerMem there
        simp [allNew inner innerMem] at there
      · rw [List.filter_eq_nil_iff.mpr]
        · rfl
        · intro path pathMem
          rcases List.mem_map.mp pathMem with ⟨inner, innerMem, rfl⟩
          simp [allNew inner innerMem]
  · have notLooked : config.StillGives before after (isDirectory (config.inputRoot.child name))
        false :=
      obstructs.stillGives_isDirectory
    exact notLooked.bind (.pure _ _ _)
  · have isDirectory : after.isDirectory (config.inputRoot.child name) = .ok false := by
      rw [Disk.isDirectory, Disk.test, unnameable]
    exact (Gives.of_ok (runOn_isDirectory_eq_ok_iff.mpr ⟨isDirectory, rfl⟩)).bind (.pure _ _ _)

theorem isDirectory (spares : config.SparesInput before after)
    (there : before.isDirectory path = .ok true) : after.isDirectory path = .ok true := by
  rcases isDirectory_eq_true_iff.mp there with ⟨address, found⟩
  exact isDirectory_eq_true_iff.mpr ⟨address,
    find_mono spares.orderly.linkless spares.afterOrderly.linkless spares.keeps found⟩

/-- All groups together have the sources that they had. -/
theorem stillGives_mapM_sourcesOf (spares : config.SparesInput before after)
    (found : before.find config.inputRoot = .ok (directory, .directory)) {lists : List (List Path)}
    (searched : runOn (((before.sortedNames directory).map config.inputRoot.child).mapM
      config.sourcesOf) before = (.ok lists, before)) :
    ∃ now, config.StillGives before after
      (((after.sortedNames directory).map config.inputRoot.child).mapM config.sourcesOf) now ∧
        now.flatten = lists.flatten := by
  have inside := Path.isWithin_refl config.inputRoot
  have afterFound :=
    find_mono spares.orderly.linkless spares.afterOrderly.linkless spares.keeps found
  rw [spares.map_child_sortedNames inside (address_eq_of_find spares.orderly.linkless found)]
    at searched
  refine Gives.mapM (onlyLooks_sourcesOf config) searched ?_ ?_
  · intro group mem there sources run
    rcases List.mem_map.mp mem with ⟨name, nameMem, rfl⟩
    have notUp := spares.afterOrderly.ne_up directory name (mem_sortedNames_iff.mp nameMem)
    exact spares.stillGives_sourcesOf (Path.isWithin_child notUp _)
      (spares.find_child_eq inside notUp found there) run
  · intro group mem new
    rcases List.mem_map.mp mem with ⟨name, nameMem, rfl⟩
    have notUp := spares.afterOrderly.ne_up directory name (mem_sortedNames_iff.mp nameMem)
    exact spares.stillGives_sourcesOf_of_new notUp afterFound nameMem new

/-- The sources that have been found are found again. -/
theorem stillGives_sources (spares : config.SparesInput before after)
    (run : runOn config.sources before = (.ok sources, before)) :
    config.StillGives before after config.sources sources := by
  rw [SiteConfig.sources, runOn_bind_eq_ok_iff] at run
  rcases run with ⟨_, _, required, run⟩
  rcases runOn_requireDirectory_eq_ok_iff.mp required with ⟨isDirectory, rfl⟩
  rcases runOn_bind_eq_ok_iff.mp run with ⟨_, mid, groupsRequired, run⟩
  have same := (OnlyLooks.forM (fun _ => onlyLooks_requireDirectory _ _) _).eq_of_runOn
    groupsRequired
  subst same
  rcases runOn_bind_eq_ok_iff.mp run with ⟨_, _, listed, run⟩
  rcases exists_of_runOn_children listed with ⟨directory, readable, rfl, rfl⟩
  have found := find_of_findReadable readable
  rcases runOn_bind_eq_ok_iff.mp run with ⟨lists, last, searched, final⟩
  have same := (OnlyLooks.mapM (onlyLooks_sourcesOf config) _).eq_of_runOn searched
  subst same
  cases final
  rcases spares.stillGives_mapM_sourcesOf found searched with ⟨now, gives, same⟩
  rw [← same]
  refine (Gives.of_ok (runOn_requireDirectory_eq_ok_iff.mpr
    ⟨spares.isDirectory isDirectory, rfl⟩)).bind ?_
  refine (Gives.forM (fun _ => onlyLooks_requireDirectory _ _) groupsRequired ?_).bind ?_
  · intro group _ groupRequired
    have there := (runOn_requireDirectory_eq_ok_iff.mp groupRequired).1
    exact .of_ok (runOn_requireDirectory_eq_ok_iff.mpr ⟨spares.isDirectory there, rfl⟩)
  · have afterFound :=
      find_mono spares.orderly.linkless spares.afterOrderly.linkless spares.keeps found
    exact (Gives.of_ok (runOn_children_of_findReadable
      (spares.findReadable_eq readable afterFound))).bind (gives.bind (.pure _ _ _))

end SparesInput

end SiteConfig

end ScriptSite
