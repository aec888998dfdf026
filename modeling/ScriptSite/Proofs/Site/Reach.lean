import Mathlib.Data.List.Infix
import ScriptSite.Proofs.Disk.Rights
import ScriptSite.Proofs.Site.Copies
import ScriptSite.Proofs.Site.Stages

/-!
# How far a build reaches

A build changes nothing outside the root of the output but for directories that were missing on the
way there, with one exception: an asset directory with a path that ends in two dots is copied over
the directory above that root.
-/

namespace ScriptSite.SiteConfig

open Disk

variable {config : SiteConfig} {before after : Disk}

/-- A build with a configuration that has been read changes the disk in three kinds of places: it
makes directories that were missing on the way to the root of the output, it makes directories and
writes files below that root, and if an asset directory has a path that ends in two dots, it does
so in the directory above. -/
theorem changed_address_of_buildOn {root : Path} {path? : Option Path} {loading loaded : Disk}
    (proper : root.IsProper) (read : runOn (load root path?) loading = (.ok config, loaded))
    (groups : Option (List Text)) (wellFormed : before.WellFormed) (linkless : before.Linkless)
    (built : ({ config with groups }.buildOn before).2.disk = after) {address : Address}
    (changed : after.get? address ≠ before.get? address) :
    (∃ above, config.outputRoot.LeadsThrough above ∧ address = before.addressOf above ∧
        before.get? address = none ∧ after.get? address = some .directory) ∨
      before.addressOf config.outputRoot <+: address ∨
      (∃ asset ∈ config.assetDirectories, asset.name = Path.upName) ∧
        (before.addressOf config.outputRoot).dropLast <+: address := by
  have assetsProper := isProper_of_runOn_load proper read
  have writes := @writes_buildOn { config with groups } before assetsProper wellFormed linkless
  rw [built] at writes
  have output : ∀ path, config.IsOutput path → before.addressOf config.outputRoot <+:
      before.addressOf path ∨ (∃ asset ∈ config.assetDirectories, asset.name = Path.upName) ∧
        (before.addressOf config.outputRoot).dropLast <+: before.addressOf path := by
    rintro path (within | ⟨up, within⟩)
    · exact Or.inl (addressOf_prefix_of_isWithin before within)
    · have below := addressOf_prefix_of_isWithin before within
      rw [addressOf_child_up] at below
      exact Or.inr ⟨up, below⟩
  rcases (writes.changes linkless).exists_of_get?_ne linkless changed with
    ⟨path, isAbove | isOutput, rfl, absent, new⟩ | ⟨path, isOutput, rfl⟩
  · exact Or.inl ⟨path, isAbove, rfl, absent, new⟩
  · exact Or.inr (output path isOutput)
  · exact Or.inr (output path isOutput)

/-- A project with an asset directory that has a path with two dots at its end. -/
def upRoot : Path :=
  { slashes := 1, names := ["p".toList] }

def upText : Text :=
  "asset_dirs: a/b/..\nasset_files: []".toList

def upAsset : Path :=
  { slashes := 1, names := ["p".toList, "a".toList, "b".toList, "..".toList] }

def upConfig : SiteConfig where
  inputRoot := upRoot.child "src".toList
  outputRoot := upRoot.child "html".toList
  assetDirectories := [upAsset]
  assetFiles := []
  extension := ".bip".toList
  indexCatalog := "index.xml".toList
  demosCatalog := "demos.xml".toList
  siteName := Page.defaultSiteName

def upDisk : Disk where
  entries :=
    [(["p".toList], .directory), (["p".toList, "src".toList], .directory),
      (["p".toList, "src".toList, "index.xml".toList], .file (Utf8.encode "<root/>".toList)),
      (["p".toList, "src".toList, "demos.xml".toList], .file (Utf8.encode "<root/>".toList)),
      (["p".toList, "a".toList], .directory), (["p".toList, "a".toList, "b".toList], .directory),
      (["p".toList, "bipdoc.yaml".toList], .file (Utf8.encode upText))]

theorem runOn_load_up : runOn (load upRoot none) upDisk = (.ok upConfig, upDisk) := by
  have found : upDisk.findReadable (upRoot.child fileName) =
      .ok (["p".toList, fileName], .file (Utf8.encode upText)) := by
    decide +kernel
  have read : Settings.ofBytes upRoot (upRoot.child fileName) (Utf8.encode upText) =
      .ok upConfig := by
    decide +kernel
  exact runOn_load_of_find found read

theorem orderly_upDisk : upDisk.WellFormed ∧ upDisk.Linkless :=
  ⟨⟨by decide, by decide⟩, linkless_of_entries (by simp [upDisk])⟩

/-- The disk of that project with the pages of the catalogs. -/
def upListed : Disk :=
  (runOn upConfig.buildCatalogs upDisk).2

theorem runOn_buildCatalogs_up : runOn upConfig.buildCatalogs upDisk =
    (.ok [upConfig.indexPage, upConfig.demosPage], upListed) := by
  have outcome : (runOn upConfig.buildCatalogs upDisk).1 =
      .ok [upConfig.indexPage, upConfig.demosPage] := by
    decide +kernel
  rw [upListed, ← outcome]

theorem orderly_upListed : upListed.Orderly := by
  have orderly := orderly_upDisk.1.orderly orderly_upDisk.2
  exact (writesOnly_buildCatalogs upConfig _ _ _ runOn_buildCatalogs_up orderly).orderly orderly

theorem copied_upAsset :
    Copied (upListed.reach + 1) [(upAsset, upConfig.assetTarget upAsset)] upListed
      (upListed.set ["p".toList, "b".toList] .directory) := by
  rcases (by decide +kernel :
    upListed.findReadable upAsset = .ok (["p".toList, "a".toList], .directory) ∧
      upListed.names ["p".toList, "a".toList] = ["b".toList] ∧
      upListed.findReadable (upAsset.child "b".toList) =
        .ok (["p".toList, "a".toList, "b".toList], .directory) ∧
      upListed.names ["p".toList, "a".toList, "b".toList] = [] ∧
      upListed.find (upConfig.assetTarget upAsset) = .ok (["p".toList], .directory) ∧
      upListed.locate false ((upConfig.assetTarget upAsset).child "b".toList) =
        .ok (.vacant ["p".toList] "b".toList)) with
    ⟨found, names, innerFound, innerNames, targetFound, vacant⟩
  have making : runOn (makeDirectory ((upConfig.assetTarget upAsset).child "b".toList)) upListed =
      (.ok (), upListed.set ["p".toList, "b".toList] .directory) := by
    rw [makeDirectory, runOn_bind, runOn_get]
    simp only [vacant]
    rfl
  have made : runOn (ensureDirectory ((upConfig.assetTarget upAsset).child "b".toList)) upListed =
      (.ok (), upListed.set ["p".toList, "b".toList] .directory) := by
    rw [runOn_ensureDirectory, making]
  have target := runOn_ensureDirectory_of_find orderly_upListed.linkless targetFound
  have sameRights := copyRights_of_denied_eq_nil
    (by decide +kernel : (upListed.set ["p".toList, "b".toList] .directory).denied = [])
  refine .directory found target ?_ (by rw [sameRights]; exact .done)
  rw [sortedNames, names, List.mergeSort_singleton]
  refine .directory innerFound made ?_ (by rw [sameRights]; exact .done)
  rw [sortedNames, innerNames, List.mergeSort_nil]
  exact .done

theorem buildOn_up :
    ∃ report, upConfig.buildOn upDisk =
      (.ok (), { disk := upListed.set ["p".toList, "b".toList] .directory, report }) := by
  have found : (runOn upConfig.sources upDisk).1 = .ok [] := by
    delta sources sourcesOf children Disk.list
    rw [sortedNames_eq_insertionSort]
    decide +kernel
  have rooted : upConfig.HasOutputRoot upListed :=
    ⟨["p".toList, "html".toList], by decide +kernel⟩
  have isDirectory : upListed.isDirectory upAsset = .ok true := by
    decide +kernel
  have proper : ∀ asset ∈ upConfig.assets, asset.IsProper :=
    isProper_of_runOn_load (by simp [Path.IsProper, upRoot, Path.isName]) runOn_load_up
  have copies := (runOn_copyAssets_eq_ok_iff orderly_upListed rooted proper).mpr
    ⟨rfl, _, .asset isDirectory copied_upAsset .nothing, .nothing⟩
  exact ⟨_, buildOn_eq_ok_iff.mpr (.stages ((onlyLooks_sources upConfig).runOn_eq found) rfl
    runOn_buildCatalogs_up copies)⟩

/-- That build succeeds, and has changed an address that is neither below the root of the output nor
on the way there. -/
theorem changed_above_output_root :
    ∃ progress address, runOn (load upRoot none) upDisk = (.ok upConfig, upDisk) ∧
      upDisk.WellFormed ∧ upDisk.Linkless ∧ upConfig.buildOn upDisk = (.ok (), progress) ∧
      progress.disk.get? address ≠ upDisk.get? address ∧
      ¬upDisk.addressOf upConfig.outputRoot <+: address ∧
      ∀ above, upConfig.outputRoot.LeadsThrough above → address ≠ upDisk.addressOf above := by
  rcases buildOn_up with ⟨report, built⟩
  refine ⟨_, ["p".toList, "b".toList], runOn_load_up, orderly_upDisk.1, orderly_upDisk.2, built, ?_,
    by decide, ?_⟩
  · rw [get?_set_self (by simp)]
    decide
  · rintro ⟨_, names⟩ ⟨rfl, isPrefix⟩
    have isInit := (List.mem_inits _ _).mpr isPrefix
    have inits : upConfig.outputRoot.names.inits =
        [[], ["p".toList], ["p".toList, "html".toList]] := rfl
    simp only [inits, List.mem_cons, List.not_mem_nil, or_false] at isInit
    rcases isInit with rfl | rfl | rfl <;> decide

/-- The theorem about what a build changes, where it has changed the directory above. -/
theorem changed_address_of_buildOn_up :
    ∃ progress address, runOn (load upRoot none) upDisk = (.ok upConfig, upDisk) ∧
      upConfig.buildOn upDisk = (.ok (), progress) ∧
      progress.disk.get? address ≠ upDisk.get? address ∧
      ((∃ above, upConfig.outputRoot.LeadsThrough above ∧ address = upDisk.addressOf above ∧
          upDisk.get? address = none ∧ progress.disk.get? address = some .directory) ∨
        upDisk.addressOf upConfig.outputRoot <+: address ∨
        (∃ asset ∈ upConfig.assetDirectories, asset.name = Path.upName) ∧
          (upDisk.addressOf upConfig.outputRoot).dropLast <+: address) := by
  rcases buildOn_up with ⟨report, built⟩
  have changed : (upListed.set ["p".toList, "b".toList] .directory).get? ["p".toList, "b".toList] ≠
      upDisk.get? ["p".toList, "b".toList] := by
    rw [get?_set_self (by simp)]
    decide
  exact ⟨_, ["p".toList, "b".toList], runOn_load_up, built, changed,
    changed_address_of_buildOn (by simp [Path.IsProper, upRoot, Path.isName]) runOn_load_up none
      orderly_upDisk.1 orderly_upDisk.2 (congrArg (fun result => result.2.disk) built) changed⟩

end ScriptSite.SiteConfig
