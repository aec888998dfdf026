import ScriptSite.Proofs.Disk.Overlay
import ScriptSite.Proofs.Site.Output

/-!
# Copying the assets

The root of the output is there when the assets are copied, because the pages of the catalogs have
been written below it. From then on copying an asset is checking that it is there, and copying it
to its target (`runOn_copyTree_eq_ok_iff`, `runOn_copyFile_eq_ok_iff`). `CopiesAssets` says so for
one asset after the other, and `runOn_copyAssets_eq_ok_iff` that this is all that copying the assets
does.
-/

namespace ScriptSite.SiteConfig

open Disk

variable {config : SiteConfig} {before mid after : Disk} {asset target : Path} {assets : List Path}
  {kind : Entry → Bool}

/-- Whether the root of the output is there. -/
def HasOutputRoot (config : SiteConfig) (disk : Disk) : Prop :=
  ∃ address, disk.find config.outputRoot = .ok (address, .directory)

theorem HasOutputRoot.mono {made written : Path → Prop} (rooted : config.HasOutputRoot before)
    (writes : Writes made written before after) (linkless : before.Linkless) :
    config.HasOutputRoot after := by
  rcases rooted with ⟨address, found⟩
  have changes := writes.changes linkless
  exact ⟨address, find_mono linkless (changes.linkless linkless) changes.keeps found⟩

/-- A copy is made exactly if the directories above it can be made, and it after them. -/
theorem runOn_copyTo_iff {message : CopyError → Text} {copy : DiskAction CopyError Unit} :
    runOn (copyTo message target copy) before = (.ok (), after) ↔
      ∃ mid, runOn (ensureDirectories target.parent) before = (.ok (), mid) ∧
        runOn copy mid = (.ok (), after) := by
  rw [copyTo, runOn_adapt_eq_ok_iff, runOn_bind_eq_ok_iff]
  constructor
  · rintro ⟨_, mid, ensured, run⟩
    exact ⟨mid, runOn_adapt_eq_ok_iff.mp ensured, run⟩
  · rintro ⟨mid, ensured, run⟩
    exact ⟨(), mid, runOn_adapt_eq_ok_iff.mpr ensured, run⟩

theorem runOn_copyTo_eq_ok_iff {message : CopyError → Text} {copy : DiskAction CopyError Unit}
    {address : Address} (linkless : before.Linkless)
    (found : before.find target.parent = .ok (address, .directory)) :
    runOn (copyTo message target copy) before = (.ok (), after) ↔
      runOn copy before = (.ok (), after) := by
  simp [runOn_copyTo_iff, runOn_ensureDirectories_of_find linkless found]

/-- An asset is copied exactly if it is of its kind and a copy of it can be made at its target. -/
theorem runOn_copyTo_assetTarget_iff {message : CopyError → Text} {copy : DiskAction CopyError Unit}
    (linkless : before.Linkless) (rooted : config.HasOutputRoot before) (proper : asset.IsProper) :
    runOn (copyTo message (config.assetTarget asset) copy) before = (.ok (), after) ↔
      runOn copy before = (.ok (), after) := by
  rcases rooted with ⟨_, found⟩
  have leads : config.outputRoot.LeadsThrough (config.assetTarget asset).parent :=
    leadsThrough_parent_assetTarget proper
  rcases exists_find_of_leadsThrough linkless found leads with ⟨_, parentFound⟩
  exact runOn_copyTo_eq_ok_iff linkless parentFound

theorem runOn_copyTree_eq_ok_iff (linkless : before.Linkless) (rooted : config.HasOutputRoot before)
    (proper : asset.IsProper) :
    runOn (copyTree asset (config.assetTarget asset)) before = (.ok (), after) ↔
      before.isDirectory asset = .ok true ∧
        Copied (before.reach + 1) [(asset, config.assetTarget asset)] before after := by
  rw [copyTree, runOn_bind_eq_ok_iff]
  constructor
  · rintro ⟨_, _, required, run⟩
    rcases runOn_requireDirectory_eq_ok_iff.mp required with ⟨isDirectory, rfl⟩
    rw [runOn_copyTo_assetTarget_iff linkless rooted proper, runOn_copyTree] at run
    rcases isDirectory_eq_true_iff.mp isDirectory with ⟨_, found⟩
    exact ⟨isDirectory, (runOn_copyDirectory_iff_copied found).mp run⟩
  · rintro ⟨isDirectory, copied⟩
    rcases isDirectory_eq_true_iff.mp isDirectory with ⟨_, found⟩
    refine ⟨(), before, runOn_requireDirectory_eq_ok_iff.mpr ⟨isDirectory, rfl⟩, ?_⟩
    rw [runOn_copyTo_assetTarget_iff linkless rooted proper, runOn_copyTree]
    exact (runOn_copyDirectory_iff_copied found).mpr copied

theorem runOn_copyFile_eq_ok_iff (linkless : before.Linkless) (rooted : config.HasOutputRoot before)
    (proper : asset.IsProper) :
    runOn (copyFile asset (config.assetTarget asset)) before = (.ok (), after) ↔
      before.isFile asset = .ok true ∧
        Copied (before.reach + 1) [(asset, config.assetTarget asset)] before after := by
  rw [copyFile, runOn_bind_eq_ok_iff]
  constructor
  · rintro ⟨_, _, required, run⟩
    rcases runOn_requireFile_eq_ok_iff.mp required with ⟨isFile, rfl⟩
    rw [runOn_copyTo_assetTarget_iff linkless rooted proper] at run
    exact ⟨isFile, (runOn_copyFile_iff_copied isFile _).mp run⟩
  · rintro ⟨isFile, copied⟩
    refine ⟨(), before, runOn_requireFile_eq_ok_iff.mpr ⟨isFile, rfl⟩, ?_⟩
    rw [runOn_copyTo_assetTarget_iff linkless rooted proper]
    exact (runOn_copyFile_iff_copied isFile _).mpr copied

/-- Assets are copied one after the other, each of which is there and of a kind. -/
inductive CopiesAssets (config : SiteConfig) (kind : Entry → Bool) : List Path → Disk → Disk → Prop
  | nothing {disk : Disk} : config.CopiesAssets kind [] disk disk
  | asset {before mid after : Disk} {asset : Path} {assets : List Path}
      (isKind : before.test kind asset = .ok true)
      (copied : Copied (before.reach + 1) [(asset, config.assetTarget asset)] before mid)
      (rest : config.CopiesAssets kind assets mid after) :
      config.CopiesAssets kind (asset :: assets) before after

theorem runOn_copyAsset_eq_ok_iff {copy : Path → Path → DiskAction Failure Unit} {out : Path} :
    runOn (config.copyAsset copy asset) before = (.ok out, after) ↔
      out = config.assetTarget asset ∧
        runOn (copy asset (config.assetTarget asset)) before = (.ok (), after) := by
  rw [copyAsset, runOn_bind_eq_ok_iff]
  constructor
  · rintro ⟨_, _, run, final⟩
    cases final
    exact ⟨rfl, run⟩
  · rintro ⟨rfl, run⟩
    exact ⟨(), after, run, rfl⟩

theorem runOn_mapM_copyAsset_eq_ok_iff {copy : Path → Path → DiskAction Failure Unit}
    (each : ∀ asset ∈ assets, ∀ before after : Disk, before.Orderly →
      config.HasOutputRoot before →
        (runOn (copy asset (config.assetTarget asset)) before = (.ok (), after) ↔
          before.test kind asset = .ok true ∧
            Copied (before.reach + 1) [(asset, config.assetTarget asset)] before after))
    (orderly : before.Orderly) (rooted : config.HasOutputRoot before) {outs : List Path} :
    runOn (assets.mapM (config.copyAsset copy)) before = (.ok outs, after) ↔
      outs = assets.map config.assetTarget ∧ config.CopiesAssets kind assets before after := by
  induction assets generalizing before outs with
  | nil =>
      rw [List.mapM_nil, runOn_pure]
      constructor
      · intro run
        cases run
        exact ⟨rfl, .nothing⟩
      · rintro ⟨rfl, copies⟩
        cases copies
        rfl
  | cons asset assets ih =>
      have laterEach := fun later mem => each later (List.mem_cons_of_mem asset mem)
      have first := each asset List.mem_cons_self before
      rw [runOn_mapM_cons_eq_ok_iff]
      constructor
      · rintro ⟨out, others, mid, rfl, copied, rest⟩
        rcases runOn_copyAsset_eq_ok_iff.mp copied with ⟨rfl, run⟩
        rcases (first mid orderly rooted).mp run with ⟨isKind, copied⟩
        have writes := copied.writes orderly
        rcases (ih laterEach (writes.orderly orderly) (rooted.mono writes orderly.linkless)).mp
          rest with ⟨rfl, copies⟩
        exact ⟨rfl, .asset isKind copied copies⟩
      · rintro ⟨rfl, copies⟩
        cases copies with
        | @asset _ mid _ _ _ isKind copied rest =>
            have writes := copied.writes orderly
            refine ⟨_, _, mid, rfl, runOn_copyAsset_eq_ok_iff.mpr
              ⟨rfl, (first mid orderly rooted).mpr ⟨isKind, copied⟩⟩, ?_⟩
            exact (ih laterEach (writes.orderly orderly)
              (rooted.mono writes orderly.linkless)).mpr ⟨rfl, rest⟩

theorem CopiesAssets.writes (copies : config.CopiesAssets kind assets before after)
    (orderly : before.Orderly) :
    Writes (fun path => ∃ asset ∈ assets, path.IsWithin (config.assetTarget asset))
      (fun path => ∃ asset ∈ assets, path.IsWithin (config.assetTarget asset)) before after := by
  induction copies with
  | nothing => exact .nothing
  | @asset before mid after asset assets _ copied _ ih =>
      have first := copied.writes orderly
      have here : ∀ path : Path,
          (∃ item ∈ [(asset, config.assetTarget asset)], path.IsWithin item.2) →
            ∃ other ∈ asset :: assets, path.IsWithin (config.assetTarget other) := by
        rintro path ⟨item, mem, within⟩
        rw [List.mem_singleton] at mem
        subst mem
        exact ⟨asset, List.mem_cons_self, within⟩
      have there : ∀ path : Path, (∃ other ∈ assets, path.IsWithin (config.assetTarget other)) →
          ∃ other ∈ asset :: assets, path.IsWithin (config.assetTarget other) := by
        rintro path ⟨other, mem, within⟩
        exact ⟨other, List.mem_cons_of_mem _ mem, within⟩
      exact (first.weaken here here).trans ((ih (first.orderly orderly)).weaken there there)

theorem runOn_mapM_copyTree_eq_ok_iff (proper : ∀ asset ∈ assets, asset.IsProper)
    (orderly : before.Orderly) (rooted : config.HasOutputRoot before) {outs : List Path} :
    runOn (assets.mapM (config.copyAsset copyTree)) before = (.ok outs, after) ↔
      outs = assets.map config.assetTarget ∧
        config.CopiesAssets (· = .directory) assets before after := by
  refine runOn_mapM_copyAsset_eq_ok_iff ?_ orderly rooted
  intro asset mem before after orderly rooted
  exact runOn_copyTree_eq_ok_iff orderly.linkless rooted (proper asset mem)

theorem runOn_mapM_copyFile_eq_ok_iff (proper : ∀ asset ∈ assets, asset.IsProper)
    (orderly : before.Orderly) (rooted : config.HasOutputRoot before) {outs : List Path} :
    runOn (assets.mapM (config.copyAsset copyFile)) before = (.ok outs, after) ↔
      outs = assets.map config.assetTarget ∧
        config.CopiesAssets isFileEntry assets before after := by
  refine runOn_mapM_copyAsset_eq_ok_iff ?_ orderly rooted
  intro asset mem before after orderly rooted
  exact runOn_copyFile_eq_ok_iff orderly.linkless rooted (proper asset mem)

/-- Copying the assets is copying the directories one after the other, and then the files. -/
theorem runOn_copyAssets_eq_ok_iff (orderly : before.Orderly) (rooted : config.HasOutputRoot before)
    (proper : ∀ asset ∈ config.assets, asset.IsProper) {outs : List Path} :
    runOn config.copyAssets before = (.ok outs, after) ↔
      outs = config.assets.map config.assetTarget ∧
        ∃ mid, config.CopiesAssets (· = .directory) config.assetDirectories before mid ∧
          config.CopiesAssets isFileEntry config.assetFiles mid after := by
  have directoriesProper := fun asset mem => proper asset (List.mem_append_left _ mem)
  have filesProper := fun asset mem => proper asset (List.mem_append_right _ mem)
  rw [copyAssets, runOn_bind_eq_ok_iff]
  constructor
  · rintro ⟨directories, mid, first, run⟩
    rw [runOn_mapM_copyTree_eq_ok_iff directoriesProper orderly rooted] at first
    rcases first with ⟨rfl, first⟩
    have writes := first.writes orderly
    rw [runOn_bind_eq_ok_iff] at run
    rcases run with ⟨files, last, second, final⟩
    rw [runOn_mapM_copyFile_eq_ok_iff filesProper (writes.orderly orderly)
      (rooted.mono writes orderly.linkless)] at second
    cases final
    exact ⟨by rw [second.1, assets, List.map_append], mid, first, second.2⟩
  · rintro ⟨rfl, mid, first, second⟩
    have writes := first.writes orderly
    refine ⟨_, mid, (runOn_mapM_copyTree_eq_ok_iff directoriesProper orderly rooted).mpr
      ⟨rfl, first⟩, ?_⟩
    rw [runOn_bind_eq_ok_iff]
    refine ⟨_, after, (runOn_mapM_copyFile_eq_ok_iff filesProper (writes.orderly orderly)
      (rooted.mono writes orderly.linkless)).mpr ⟨rfl, second⟩, ?_⟩
    rw [assets, List.map_append]
    rfl

/-- Assets with the paths that they are copied to. -/
def assetPairs (config : SiteConfig) (assets : List Path) : List (Path × Path) :=
  assets.map fun asset => (asset, config.assetTarget asset)

theorem CopiesAssets.copied (copies : config.CopiesAssets kind assets before after)
    (orderly : before.Orderly) :
    Copied (before.reach + 1) (config.assetPairs assets) before after := by
  induction copies with
  | nothing => exact .done
  | asset _ copied _ ih =>
      have writes := copied.writes orderly
      have rest := ih (writes.orderly orderly)
      rw [(writes.changes orderly.linkless).reach_eq] at rest
      exact copied.append rest

/-- Whether the root of the output is separate from all that a site is made from, and all assets
have names to be copied to. -/
structure SeparatesOutput (config : SiteConfig) (disk : Disk) : Prop where
  input : Separate (disk.addressOf config.outputRoot) (disk.addressOf config.inputRoot)
  index : Separate (disk.addressOf config.outputRoot) (disk.addressOf config.indexPath)
  demos : Separate (disk.addressOf config.outputRoot) (disk.addressOf config.demosPath)
  asset : ∀ asset ∈ config.assets,
    Separate (disk.addressOf config.outputRoot) (disk.addressOf asset)
  isProper : ∀ asset ∈ config.assets, asset.IsProper
  ne_up : ∀ asset ∈ config.assets, asset.name ≠ Path.upName

theorem SeparatesOutput.copiesInto (separates : config.SeparatesOutput before)
    (same : after.current = before.current) :
    CopiesInto (before.addressOf config.outputRoot) after (config.assetPairs config.assets) where
  outside := by
    intro item mem
    rcases List.mem_map.mp mem with ⟨asset, assetMem, rfl⟩
    rw [addressOf_congr same]
    exact separates.asset asset assetMem
  inside := by
    intro item mem
    rcases List.mem_map.mp mem with ⟨asset, assetMem, rfl⟩
    rw [addressOf_congr same]
    exact addressOf_prefix_of_isWithin before
      (isWithin_assetTarget (separates.isProper asset assetMem) (separates.ne_up asset assetMem))

theorem copied_of_runOn_copyAssets (orderly : before.Orderly) (rooted : config.HasOutputRoot before)
    (proper : ∀ asset ∈ config.assets, asset.IsProper) {outs : List Path}
    (run : runOn config.copyAssets before = (.ok outs, after)) :
    outs = config.assets.map config.assetTarget ∧
      Copied (before.reach + 1) (config.assetPairs config.assets) before after := by
  rcases (runOn_copyAssets_eq_ok_iff orderly rooted proper).mp run with
    ⟨rfl, mid, directories, files⟩
  refine ⟨rfl, ?_⟩
  have writes := directories.writes orderly
  have filesCopied := files.copied (writes.orderly orderly)
  rw [(writes.changes orderly.linkless).reach_eq] at filesCopied
  rw [assets, assetPairs, List.map_append]
  exact (directories.copied orderly).append filesCopied

end ScriptSite.SiteConfig
