import ScriptSite.Proofs.Disk.Copy
import ScriptSite.Proofs.Site.Asset
import ScriptSite.Proofs.Site.InputError

/-!
# Where a build writes

A configuration that has been read has paths of plain names, so an asset is copied to the root of
the output or to a name in it (`assetTarget_eq`). The one name that leads elsewhere is that of the
directory above: an asset directory whose path ends in two dots is copied over the directory that
holds the root of the output. No file has such a path.

Everything else that a build writes is below the root of the output, whether it succeeds or stops
somewhere (`writes_buildOn`), but for the directories that have to be made on the way there.
-/

namespace ScriptSite

open Disk

namespace SiteConfig

variable {config : SiteConfig} {before after : Disk} {asset source out path : Path}
  {group name page : Text} {sources : List Path} {made written : Path → Prop}

/-- Whether a path is below the root of the output, or below the directory above it and an asset
directory has that name. -/
def IsOutput (config : SiteConfig) (path : Path) : Prop :=
  path.IsWithin config.outputRoot ∨
    (∃ asset ∈ config.assetDirectories, asset.name = Path.upName) ∧
      path.IsWithin (config.outputRoot.child Path.upName)

/-- Whether a path is on the way to the root of the output, or below it. -/
def IsOutputDirectory (config : SiteConfig) (path : Path) : Prop :=
  config.outputRoot.LeadsThrough path ∨ config.IsOutput path

theorem IsOutput.isWithin (isOutput : config.IsOutput path)
    (noUp : ∀ asset ∈ config.assets, asset.name ≠ Path.upName) :
    path.IsWithin config.outputRoot := by
  rcases isOutput with within | ⟨⟨asset, mem, up⟩, _⟩
  · exact within
  · exact absurd up (noUp asset (List.mem_append_left _ mem))

theorem isOutput_child (notUp : name ≠ Path.upName) :
    config.IsOutput (config.outputRoot.child name) :=
  Or.inl (Path.isWithin_child notUp _)

theorem writesOnly_writePage (out : Path) (page : Text) :
    WritesOnly out.parent.LeadsThrough (· = out) (writePage out page) := by
  refine Respects.adapt (Respects.bind ?_ fun _ => ?_)
  · exact (WritesOnly.weaken (writesOnly_ensureDirectories _) (fun _ => id)
      (fun _ => False.elim)).adapt
  · exact WritesOnly.weaken (writesOnly_writeFile _ _) (fun _ => False.elim) (fun _ => id)

theorem writesOnly_copyTo {message : CopyError → Text} {target : Path}
    {copy : DiskAction CopyError Unit} (writes : WritesOnly made written copy) :
    WritesOnly (fun path => target.parent.LeadsThrough path ∨ made path) written
      (copyTo message target copy) := by
  refine Respects.adapt (Respects.bind ?_ fun _ => ?_)
  · exact (WritesOnly.weaken (writesOnly_ensureDirectories _) (fun _ => Or.inl)
      (fun _ => False.elim)).adapt
  · exact WritesOnly.weaken writes (fun _ => Or.inr) (fun _ => id)

/-- A page beside the groups is written below no other directory than the root of the output. -/
theorem writesOnly_writePage_child (notUp : name ≠ Path.upName) (page : Text) :
    WritesOnly config.IsOutputDirectory config.IsOutput
      (writePage (config.outputRoot.child name) page) := by
  refine WritesOnly.weaken (writesOnly_writePage _ _) ?_ ?_
  · intro above isAbove
    rw [Path.parent_child] at isAbove
    exact Or.inl isAbove
  · rintro _ rfl
    exact isOutput_child notUp

theorem writesOnly_buildPage (isSource : config.IsSourcePath source group name) :
    WritesOnly config.IsOutputDirectory config.IsOutput (config.buildPage source) := by
  refine Respects.bind (.of_onlyLooks ?_) fun page => ?_
  · intro disk
    rcases agrees_examplePage (rfl : disk.findReadable source = _) with ⟨outcome, run, _⟩
    rw [run]
  · intro before outcome after run
    rw [isSource.outputPath_eq, runOn_bind, runOn_liftExcept] at run
    refine Respects.bind (WritesOnly.weaken (writesOnly_writePage _ _) ?_ ?_)
      (fun _ => .pure _ _) _ _ _ run
    · intro above isAbove
      rw [Path.parent_child, Path.leadsThrough_child_iff] at isAbove
      rcases isAbove with isAbove | rfl
      · exact Or.inl isAbove
      · exact Or.inr (isOutput_child isSource.group_ne_upName)
    · rintro _ rfl
      refine Or.inl ((Path.isWithin_child (pageName_ne_upName name) _).trans ?_)
      exact Path.isWithin_child isSource.group_ne_upName _

theorem writesOnly_mapM_buildPage (areSources : config.AreSources before sources) :
    WritesOnly config.IsOutputDirectory config.IsOutput (sources.mapM config.buildPage) := by
  refine Respects.mapM fun source mem => ?_
  rcases areSources.isSource source mem with ⟨_, _, isSource⟩
  exact writesOnly_buildPage isSource

theorem writesOnly_buildCatalogs (config : SiteConfig) :
    WritesOnly config.IsOutputDirectory config.IsOutput config.buildCatalogs := by
  refine Respects.bind (.of_onlyLooks (onlyLooks_loadCatalog _ _)) fun examples => ?_
  refine Respects.bind (.of_onlyLooks (onlyLooks_loadCatalog _ _)) fun demos => ?_
  refine Respects.bind (writesOnly_writePage_child (by decide) _) fun _ => ?_
  exact Respects.bind (writesOnly_writePage_child (by decide) _) fun _ => .pure _ _

/-- The directory that an asset is copied to is on the way to the root of the output. -/
theorem leadsThrough_parent_assetTarget (proper : asset.IsProper) :
    config.outputRoot.LeadsThrough (config.assetTarget asset).parent := by
  rw [assetTarget_eq proper]
  split
  · exact ⟨rfl, List.dropLast_prefix _⟩
  · rw [Path.parent_child]
    exact .refl _

theorem isWithin_assetTarget (proper : asset.IsProper) (notUp : asset.name ≠ Path.upName) :
    (config.assetTarget asset).IsWithin config.outputRoot := by
  rw [assetTarget_eq proper]
  split
  · exact Path.isWithin_refl _
  · exact Path.isWithin_child notUp _

theorem isOutput_of_isWithin_assetTarget (proper : asset.IsProper)
    (mem : asset ∈ config.assetDirectories) (within : path.IsWithin (config.assetTarget asset)) :
    config.IsOutput path := by
  by_cases up : asset.name = Path.upName
  · have some : asset.names ≠ [] := by
      intro none
      simp [Path.name, none, Path.upName] at up
    rw [assetTarget_eq proper, if_neg some, up] at within
    exact Or.inr ⟨⟨asset, mem, up⟩, within⟩
  · exact Or.inl (within.trans (isWithin_assetTarget proper up))

theorem writesOnly_copyTree_assetTarget (proper : asset.IsProper)
    (mem : asset ∈ config.assetDirectories) :
    WritesOnly config.IsOutputDirectory config.IsOutput
      (copyTree asset (config.assetTarget asset)) := by
  refine Respects.bind (.of_onlyLooks (onlyLooks_requireDirectory _ _)) fun _ => ?_
  refine WritesOnly.weaken (writesOnly_copyTo (writesOnly_copyTree _ _)) ?_ ?_
  · rintro above (isAbove | within)
    · exact Or.inl ((leadsThrough_parent_assetTarget proper).trans isAbove)
    · exact Or.inr (isOutput_of_isWithin_assetTarget proper mem within)
  · exact fun _ => isOutput_of_isWithin_assetTarget proper mem

/-- A file is copied below the root of the output, since it has a name that leads down. -/
theorem writesOnly_copyFile_assetTarget (proper : asset.IsProper) :
    WritesOnly config.IsOutputDirectory config.IsOutput
      (copyFile asset (config.assetTarget asset)) := by
  intro before outcome after run orderly
  rw [copyFile, runOn_bind] at run
  rcases required : runOn (requireFile .assetFile asset) before with ⟨failure | _, mid⟩
  · rw [required] at run
    cases run
    rw [(onlyLooks_requireFile _ _).eq_of_runOn required]
    exact .nothing
  · rw [required] at run
    have same := (onlyLooks_requireFile _ _).eq_of_runOn required
    subst same
    have notUp : asset.name ≠ Path.upName := by
      intro up
      have isFile := (runOn_requireFile_eq_ok_iff.mp required).1
      rcases test_eq_true_iff.mp isFile with ⟨_, entry, found, holds⟩
      rw [eq_directory_of_find_up orderly.linkless up found] at holds
      simp [isFileEntry] at holds
    have below : (config.assetTarget asset).IsWithin config.outputRoot :=
      isWithin_assetTarget proper notUp
    refine WritesOnly.weaken (writesOnly_copyTo (writesOnly_copyFileWith notUp _ _ _)) ?_ ?_ _ _ _
      run orderly
    · rintro above (isAbove | none)
      · exact Or.inl ((leadsThrough_parent_assetTarget proper).trans isAbove)
      · exact none.elim
    · exact fun path within => Or.inl (within.trans below)

theorem writesOnly_copyAssets (proper : ∀ asset ∈ config.assets, asset.IsProper) :
    WritesOnly config.IsOutputDirectory config.IsOutput config.copyAssets := by
  have directories : WritesOnly config.IsOutputDirectory config.IsOutput
      (config.assetDirectories.mapM (config.copyAsset copyTree)) := by
    refine Respects.mapM fun asset mem => Respects.bind ?_ fun _ => .pure _ _
    exact writesOnly_copyTree_assetTarget (proper asset (List.mem_append_left _ mem)) mem
  have files : WritesOnly config.IsOutputDirectory config.IsOutput
      (config.assetFiles.mapM (config.copyAsset copyFile)) := by
    refine Respects.mapM fun asset mem => Respects.bind ?_ fun _ => .pure _ _
    exact writesOnly_copyFile_assetTarget (proper asset (List.mem_append_right _ mem))
  exact directories.bind fun _ => files.bind fun _ => .pure _ _

/-- Whether a build comes from one point to another by writes. -/
def Proceeds (made written : Path → Prop) (start later : Progress) : Prop :=
  Evolves made written start.disk later.disk

instance (made written : Path → Prop) : IsPreorder Progress (Proceeds made written) where
  refl start := refl_of (Evolves made written) start.disk
  trans _ _ _ first second := trans_of (Evolves made written) first second

theorem respects_onDisk {α : Type} {action : DiskAction Failure α}
    (writes : WritesOnly made written action) :
    Respects (Proceeds made written) (BuildAction.onDisk action) := by
  intro start outcome later run
  exact writes _ _ _ (runOn_onDisk_eq_iff.mp run).1

theorem respects_note (change : BuildReport → BuildReport) :
    Respects (Proceeds made written) (BuildAction.note change) := by
  intro start outcome later run
  cases run
  exact refl_of (Evolves made written) start.disk

/-- A build makes directories on the way to the root of the output and writes below it, whether it
succeeds or stops somewhere. -/
theorem writes_buildOn (proper : ∀ asset ∈ config.assets, asset.IsProper)
    (wellFormed : before.WellFormed) (linkless : before.Linkless) :
    Writes config.IsOutputDirectory config.IsOutput before (config.buildOn before).2.disk := by
  have orderly := wellFormed.orderly linkless
  rcases run : runOn config.build { disk := before } with ⟨outcome, later⟩
  have sameRun : config.buildOn before = (outcome, later) := run
  rw [sameRun]
  rw [build, runOn_bind] at run
  rcases search : runOn (BuildAction.onDisk config.sources) { disk := before } with
    ⟨failure | sources, mid⟩
  · rw [search] at run
    cases run
    rw [(onlyLooks_sources config).eq_of_runOn (runOn_onDisk_eq_iff.mp search).1]
    exact .nothing
  · rw [search] at run
    rcases areSources_of_runOn_sources wellFormed (runOn_onDisk_eq_iff.mp search).1 with
      ⟨same, areSources⟩
    have pages : Respects (Proceeds config.IsOutputDirectory config.IsOutput)
        (sources.forM config.buildSource) := by
      refine Respects.forM fun source mem => ?_
      rcases areSources.isSource source mem with ⟨_, _, isSource⟩
      exact (respects_onDisk (writesOnly_buildPage isSource)).bind fun _ => respects_note _
    have evolves : Evolves config.IsOutputDirectory config.IsOutput mid.disk later.disk := by
      refine pages.bind (fun _ => ?_) _ _ _ run
      refine (respects_onDisk (writesOnly_buildCatalogs config)).bind fun _ => ?_
      refine (respects_note _).bind fun _ => ?_
      exact (respects_onDisk (writesOnly_copyAssets proper)).bind fun _ => respects_note _
    rw [same] at evolves
    exact evolves orderly

end SiteConfig

end ScriptSite
