import ScriptSite.Proofs.Site.InputError

/-!
# The stages of a build

A build that succeeds has looked for the sources, made their pages, made the pages of the catalogs
and copied the assets, and its report tells what came out of each of these stages. `Completes` says
so, and `buildOn_eq_ok_iff` that there is nothing more to a build that succeeds.
-/

namespace ScriptSite.SiteConfig

variable {config : SiteConfig} {before : Disk} {sources : List Path}
  {start later progress : Progress}

theorem runOn_buildSource_eq_ok_iff {source : Path} :
    runOn (config.buildSource source) start = (.ok (), later) ↔
      ∃ out disk, runOn (config.buildPage source) start.disk = (.ok out, disk) ∧
        later = { disk, report := { start.report with
          pages := start.report.pages ++ [(source, out)] } } := by
  rw [runOn_buildSource]
  rcases runOn (config.buildPage source) start.disk with ⟨_ | out, disk⟩
  · simp
  · simp [eq_comm]

/-- The pages of sources are made exactly if each is made, and they are noted in their order. -/
theorem runOn_forM_buildSource_eq_ok_iff {done : PUnit} :
    runOn (sources.forM config.buildSource) start = (.ok done, later) ↔
      ∃ outs disk, runOn (sources.mapM config.buildPage) start.disk = (.ok outs, disk) ∧
        later = { disk, report := { start.report with
          pages := start.report.pages ++ sources.zip outs } } := by
  induction sources generalizing start with
  | nil =>
      rw [List.forM, runOn_pure, List.mapM_nil, runOn_pure]
      simp [eq_comm]
  | cons source sources ih =>
      rw [List.forM, runOn_bind_eq_ok_iff, List.mapM_cons]
      constructor
      · rintro ⟨_, mid, made, run⟩
        rcases runOn_buildSource_eq_ok_iff.mp made with ⟨out, disk, page, rfl⟩
        rcases ih.mp run with ⟨outs, last, pages, rfl⟩
        refine ⟨out :: outs, last, ?_, by simp⟩
        rw [runOn_bind_eq_ok_iff]
        refine ⟨out, disk, page, ?_⟩
        rw [runOn_bind_eq_ok_iff]
        exact ⟨outs, last, pages, rfl⟩
      · rintro ⟨_, last, run, rfl⟩
        rw [runOn_bind_eq_ok_iff] at run
        rcases run with ⟨out, disk, page, run⟩
        rw [runOn_bind_eq_ok_iff] at run
        rcases run with ⟨outs, _, pages, run⟩
        cases run
        refine ⟨(), _, runOn_buildSource_eq_ok_iff.mpr ⟨out, disk, page, rfl⟩, ?_⟩
        exact ih.mpr ⟨outs, last, pages, by simp⟩

/-- A build comes to a result in stages. -/
inductive Completes (config : SiteConfig) (before : Disk) : Progress → Prop
  | stages {sources outs catalogs assets : List Path} {paged listed last : Disk}
      (found : runOn config.sources before = (.ok sources, before))
      (pages : runOn (sources.mapM config.buildPage) before = (.ok outs, paged))
      (catalogPages : runOn config.buildCatalogs paged = (.ok catalogs, listed))
      (copies : runOn config.copyAssets listed = (.ok assets, last)) :
      config.Completes before
        { disk := last, report := { pages := sources.zip outs, catalogs, assets } }

theorem runOn_onDisk_eq_ok_iff {α : Type} {action : DiskAction Failure α} {a : α} :
    runOn (BuildAction.onDisk action) start = (.ok a, later) ↔
      ∃ disk, runOn action start.disk = (.ok a, disk) ∧ later = { start with disk } := by
  rw [runOn_onDisk]
  rcases runOn action start.disk with ⟨_ | _, disk⟩ <;> simp [eq_comm]

/-- A build succeeds exactly if all its stages do. -/
theorem buildOn_eq_ok_iff :
    config.buildOn before = (.ok (), progress) ↔ config.Completes before progress := by
  change runOn config.build { disk := before } = _ ↔ _
  simp only [build, runOn_bind_eq_ok_iff, runOn_onDisk_eq_ok_iff, runOn_note,
    runOn_forM_buildSource_eq_ok_iff]
  constructor
  · rintro ⟨sources, _, ⟨searched, found, rfl⟩, _, _, ⟨outs, paged, pages, rfl⟩,
      catalogs, _, ⟨listed, catalogPages, rfl⟩, _, _, noted, assets, _, ⟨last, copies, rfl⟩, run⟩
    cases noted
    cases run
    have same := (onlyLooks_sources config).eq_of_runOn found
    subst same
    exact .stages found pages catalogPages copies
  · intro completes
    cases completes with
    | stages found pages catalogPages copies =>
        exact ⟨_, _, ⟨_, found, rfl⟩, (), _, ⟨_, _, pages, rfl⟩, _, _, ⟨_, catalogPages, rfl⟩, _, _,
          rfl, _, _, ⟨_, copies, rfl⟩, rfl⟩

end ScriptSite.SiteConfig
