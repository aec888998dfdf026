import ScriptSite.Proofs.Site.Pages

/-!
# Errors in the input

A build that stops at an error in its input has done whole pages only. When it stops while it looks
for the sources, nothing has changed. When it stops at a source, the pages of the sources before it
are there and nothing else has changed, because a page is rendered before it is written. When it
stops at a catalog, all pages of sources are there and nothing else has changed, because both
catalogs are read before a page is written for either.

No other part of a build fails with such an error: writing and copying fail in other ways
(`failsOnly_writePage`, `failsOnly_copyAssets`).
-/

namespace ScriptSite

open Disk

/-- Whether a failure is an error in what the pages are made from. -/
def Failure.IsInputError : Failure → Prop
  | .reported (.missing kind _) => kind = .inputDirectory ∨ kind = .groupDirectory ∨ kind = .catalog
  | .reported (.untitled _) => True
  | .reported (.notUtf8 _ _) => True
  | .reported (.unreadable _ _) => True
  | .reported (.malformedCatalog _ _) => True
  | _ => False

/-- The sources whose pages have been made. -/
def Progress.done (progress : Progress) : List Path :=
  progress.report.pages.map Prod.fst

variable {before mid after disk : Disk} {source out : Path} {page : Text} {failure : Failure}

/-- Whether a failure is something else than an error in the input. -/
def Failure.IsOther (failure : Failure) : Prop :=
  ¬failure.IsInputError

theorem failsOnly_writePage (out : Path) (page : Text) :
    FailsOnly Failure.IsOther (writePage out page) := by
  refine FailsOnly.adapt ?_ _
  intro fault
  cases fault <;> simp [Failure.ofWriting, Failure.IsOther, Failure.IsInputError]

theorem failsOnly_copyTo (message : CopyError → Text) (target : Path)
    (copy : DiskAction CopyError Unit) :
    FailsOnly Failure.IsOther (copyTo message target copy) := by
  refine FailsOnly.adapt ?_ _
  intro error
  cases error <;> simp [copyFailure, Failure.IsOther, Failure.IsInputError]

namespace SiteConfig

variable {config : SiteConfig} {sources done rest : List Path} {start later progress : Progress}

theorem failsOnly_isDirectory (path : Path) : FailsOnly Failure.IsOther (isDirectory path) := by
  intro before after failure run
  rw [runOn_isDirectory, Prod.mk.injEq] at run
  rcases exists_of_mapError_eq_error run.1 with ⟨error, _, rfl⟩
  simp [Failure.IsOther, Failure.IsInputError]

theorem failsOnly_isFile (path : Path) : FailsOnly Failure.IsOther (isFile path) := by
  intro before after failure run
  rw [runOn_isFile, Prod.mk.injEq] at run
  rcases exists_of_mapError_eq_error run.1 with ⟨error, _, rfl⟩
  simp [Failure.IsOther, Failure.IsInputError]

theorem failsOnly_copyAsset {copy : Path → Path → DiskAction Failure Unit}
    (fails : ∀ source target, FailsOnly Failure.IsOther (copy source target)) (asset : Path) :
    FailsOnly Failure.IsOther (config.copyAsset copy asset) :=
  (fails _ _).bind fun _ => .pure _ _

theorem failsOnly_copyTree (source target : Path) :
    FailsOnly Failure.IsOther (copyTree source target) := by
  refine FailsOnly.bind ?_ fun _ => failsOnly_copyTo _ _ _
  refine (failsOnly_isDirectory source).bind ?_
  intro holds
  cases holds with
  | false => exact .throw (by simp [Failure.IsOther, Failure.IsInputError])
  | true => exact .pure _ _

theorem failsOnly_copyFile (source target : Path) :
    FailsOnly Failure.IsOther (copyFile source target) := by
  refine FailsOnly.bind ?_ fun _ => failsOnly_copyTo _ _ _
  refine (failsOnly_isFile source).bind ?_
  intro holds
  cases holds with
  | false => exact .throw (by simp [Failure.IsOther, Failure.IsInputError])
  | true => exact .pure _ _

theorem failsOnly_copyAssets (config : SiteConfig) :
    FailsOnly Failure.IsOther config.copyAssets := by
  refine (FailsOnly.mapM (failsOnly_copyAsset failsOnly_copyTree) _).bind fun _ => ?_
  exact (FailsOnly.mapM (failsOnly_copyAsset failsOnly_copyFile) _).bind fun _ => .pure _ _

/-- Whether one of the catalogs cannot be loaded: the first, or the second after the first. -/
def CatalogFails (config : SiteConfig) (disk : Disk) (failure : Failure) : Prop :=
  runOn (loadCatalog config.indexPath Catalog.exampleElement) disk = (.error failure, disk) ∨
    ∃ examples, runOn (loadCatalog config.indexPath Catalog.exampleElement) disk =
        (.ok examples, disk) ∧
      runOn (loadCatalog config.demosPath Catalog.demoElement) disk = (.error failure, disk)

/-- If the pages of the catalogs cannot be made because of an error in the input, one of the
catalogs cannot be loaded, and nothing has been written. -/
theorem catalogFails_of_runOn_buildCatalogs (isInput : failure.IsInputError)
    (run : runOn config.buildCatalogs before = (.error failure, after)) :
    after = before ∧ config.CatalogFails before failure := by
  rw [buildCatalogs, runOn_bind_eq_error_iff] at run
  rcases run with failed | ⟨examples, first, loaded, run⟩
  · have same := (onlyLooks_loadCatalog _ _).eq_of_runOn failed
    subst same
    exact ⟨rfl, Or.inl failed⟩
  · have same := (onlyLooks_loadCatalog _ _).eq_of_runOn loaded
    subst same
    rw [runOn_bind_eq_error_iff] at run
    rcases run with failed | ⟨demos, second, demosLoaded, run⟩
    · have same := (onlyLooks_loadCatalog _ _).eq_of_runOn failed
      subst same
      exact ⟨rfl, Or.inr ⟨examples, loaded, failed⟩⟩
    · have writes : FailsOnly Failure.IsOther (do
          writePage config.indexPage (Page.index examples config.siteName)
          writePage config.demosPage (Page.demos demos config.siteName)
          return [config.indexPage, config.demosPage]) :=
        (failsOnly_writePage _ _).bind fun _ => (failsOnly_writePage _ _).bind fun _ => .pure _ _
      exact absurd isInput (writes _ _ _ run)

/-- If the page of a source cannot be made because of an error in the input, the source has it, and
nothing has been written. -/
theorem examplePage_fails_of_runOn_buildPage {group name : Text}
    (isSource : config.IsSourcePath source group name) (isInput : failure.IsInputError)
    (run : runOn (config.buildPage source) before = (.error failure, after)) :
    after = before ∧ runOn (config.examplePage source) before = (.error failure, before) := by
  rw [buildPage, runOn_bind_eq_error_iff] at run
  rcases run with failed | ⟨page, mid, rendered, run⟩
  · exact (agrees_examplePage rfl).runOn_eq failed
  · rw [isSource.outputPath_eq] at run
    have writes : ∀ out, FailsOnly Failure.IsOther (do
        writePage out page
        return out) :=
      fun out => (failsOnly_writePage _ _).bind fun _ => .pure _ _
    rw [runOn_bind, runOn_liftExcept] at run
    exact absurd isInput (writes _ _ _ _ run)

theorem runOn_onDisk {α : Type} (action : DiskAction Failure α) (progress : Progress) :
    runOn (BuildAction.onDisk action) progress =
      ((runOn action progress.disk).1, { progress with disk := (runOn action progress.disk).2 }) :=
  rfl

theorem runOn_onDisk_eq_iff {α : Type} {action : DiskAction Failure α}
    {outcome : Except Failure α} :
    runOn (BuildAction.onDisk action) start = (outcome, later) ↔
      runOn action start.disk = (outcome, later.disk) ∧ later.report = start.report := by
  rw [runOn_onDisk]
  rcases runOn action start.disk with ⟨result, disk⟩
  rcases later with ⟨laterDisk, report⟩
  simp only [Prod.mk.injEq, Progress.mk.injEq, and_assoc]
  rw [eq_comm (a := report)]

theorem runOn_note (change : BuildReport → BuildReport) (progress : Progress) :
    runOn (BuildAction.note change) progress =
      (.ok (), { progress with report := change progress.report }) :=
  rfl

theorem failsOnly_onDisk {α : Type} {p : Failure → Prop} {action : DiskAction Failure α}
    (fails : FailsOnly p action) : FailsOnly p (BuildAction.onDisk action) := by
  intro start later failure run
  exact fails _ _ _ (runOn_onDisk_eq_iff.mp run).1

theorem failsOnly_note (p : Failure → Prop) (change : BuildReport → BuildReport) :
    FailsOnly p (BuildAction.note change) := by
  intro start later failure run
  simp [runOn_note] at run

theorem runOn_buildSource (config : SiteConfig) (source : Path) (progress : Progress) :
    runOn (config.buildSource source) progress =
      match runOn (config.buildPage source) progress.disk with
      | (.ok out, disk) =>
        (.ok (), { disk, report := { progress.report with
          pages := progress.report.pages ++ [(source, out)] } })
      | (.error failure, disk) => (.error failure, { progress with disk }) := by
  rw [buildSource, runOn_bind, runOn_onDisk]
  rcases runOn (config.buildPage source) progress.disk with ⟨_ | out, disk⟩ <;> rfl

/-- The pages of sources are made in order, either of all of them, or up to one whose page cannot be
made. -/
inductive BuildsUntil (config : SiteConfig) (start : Disk) (sources done : List Path) :
    Except Failure Unit → Disk → Prop
  | finish {disk : Disk} (order : sources = done) (builds : config.Builds start done disk) :
      config.BuildsUntil start sources done (.ok ()) disk
  | stop {mid disk : Disk} {source : Path} {rest : List Path} {failure : Failure}
      (order : sources = done ++ source :: rest) (builds : config.Builds start done mid)
      (failed : runOn (config.buildPage source) mid = (.error failure, disk)) :
      config.BuildsUntil start sources done (.error failure) disk

theorem buildsUntil_of_runOn_forM {outcome : Except Failure Unit}
    (run : runOn (sources.forM config.buildSource) start = (outcome, later)) :
    ∃ done, later.done = start.done ++ done ∧
      config.BuildsUntil start.disk sources done outcome later.disk := by
  induction sources generalizing start with
  | nil =>
      rw [List.forM, runOn_pure, Prod.mk.injEq] at run
      rw [← run.1, ← run.2]
      exact ⟨[], by simp, .finish rfl .nothing⟩
  | cons source sources ih =>
      rw [List.forM, runOn_bind, runOn_buildSource] at run
      rcases made : runOn (config.buildPage source) start.disk with ⟨failure | out, disk⟩
      · rw [made] at run
        cases run
        exact ⟨[], by simp [Progress.done], .stop rfl .nothing made⟩
      · rw [made] at run
        rcases ih run with ⟨done, sameDone, course⟩
        refine ⟨source :: done, by simpa [Progress.done] using sameDone, ?_⟩
        cases course with
        | finish order builds => exact .finish (by rw [order]) (.page made builds)
        | stop order builds failed =>
            exact .stop (by rw [order, List.cons_append]) (.page made builds) failed

/-- Where a build stops at an error in the input, having made the pages of `done`: while it looks
for the sources, at the source after those, or at a catalog. -/
inductive FailsAt (config : SiteConfig) (before after : Disk) (failure : Failure) :
    (sources done : List Path) → Prop
  | discovery (failed : runOn config.sources before = (.error failure, before)) :
      config.FailsAt before after failure [] []
  | source {sources done rest : List Path} {source : Path}
      (found : runOn config.sources before = (.ok sources, before))
      (order : sources = done ++ source :: rest)
      (failed : runOn (config.examplePage source) before = (.error failure, before)) :
      config.FailsAt before after failure sources done
  | catalog {sources : List Path} (found : runOn config.sources before = (.ok sources, before))
      (failed : config.CatalogFails after failure) :
      config.FailsAt before after failure sources sources

/-- Whether a disk is another one with nothing but the pages of the sources `done`, complete, and
the directories above them. Nothing is there for the other sources or for the catalogs. -/
structure LeavesOnlyPages (config : SiteConfig) (before after : Disk) (sources done : List Path) :
    Prop where
  holds : ∀ source ∈ done, config.HoldsPage before after source
  changes : Changes (config.IsAbovePageOf done) (config.IsPageOf done) before after
  sparesSources : ∀ source ∈ sources, source ∉ done → ∀ out, config.outputPath source = .ok out →
    Spares (config.IsAbovePageOf done) before after out
  sparesCatalogs : ∀ out, config.IsCatalogPage out →
    Spares (config.IsAbovePageOf done) before after out
  unchanged : done = [] → after = before

theorem AreSources.of_append (areSources : config.AreSources before (done ++ rest)) :
    config.AreSources before done where
  nodup := areSources.nodup.of_append_left
  isSource := fun source mem => areSources.isSource source (List.mem_append_left rest mem)
  isFile := fun source mem => areSources.isFile source (List.mem_append_left rest mem)

theorem leavesOnlyPages_of_builds (linkless : before.Linkless)
    (areSources : config.AreSources before (done ++ rest))
    (builds : config.Builds before done after) :
    config.LeavesOnlyPages before after (done ++ rest) done := by
  have within : done ⊆ done ++ rest := List.subset_append_left done rest
  rcases builds.holdsPage linkless areSources.of_append with ⟨changes, holds⟩
  have sparesTop : ∀ top, top ≠ Path.upName →
      Spares (config.IsAbovePageOf done) before after (config.outputRoot.child top) :=
    fun top notUp => changes.spares linkless notUp
      fun _ isPage => areSources.child_apart_page within notUp isPage
  refine ⟨holds, changes, ?_, ?_, ?_⟩
  · intro source mem notDone out isOut
    rcases areSources.isSource source mem with ⟨group, name, isSource⟩
    have child := isSource.outputPath_eq
    rw [isOut, Except.ok.injEq] at child
    rw [child]
    refine changes.spares linkless (pageName_ne_upName name) ?_
    rw [← child]
    exact fun _ isPage => areSources.page_apart_page within mem notDone isOut isPage
  · rintro _ (rfl | rfl)
    · exact sparesTop _ (by decide)
    · exact sparesTop _ (by decide)
  · rintro rfl
    cases builds
    rfl

/-- The source whose page cannot be made has the error already in the beginning, because the pages
before it have not changed it. -/
theorem leavesOnlyPages_of_stop (linkless : before.Linkless)
    (areSources : config.AreSources before (done ++ source :: rest))
    (isInput : failure.IsInputError) (builds : config.Builds before done mid)
    (failed : runOn (config.buildPage source) mid = (.error failure, after)) :
    runOn (config.examplePage source) before = (.error failure, before) ∧
      config.LeavesOnlyPages before after (done ++ source :: rest) done := by
  have leaves := leavesOnlyPages_of_builds linkless areSources builds
  have mem : source ∈ done ++ source :: rest := by
    simp
  have notDone : source ∉ done := fun isDone =>
    List.disjoint_of_nodup_append areSources.nodup isDone List.mem_cons_self
  rcases areSources.isSource source mem with ⟨_, _, isSource⟩
  rcases examplePage_fails_of_runOn_buildPage isSource isInput failed with ⟨sameDisk, fails⟩
  have unwritten := areSources.find_eq linkless (List.subset_append_left done _) leaves.changes mem
    notDone
  rw [sameDisk]
  exact ⟨((agrees_examplePage unwritten.2).runOn_eq fails).2, leaves⟩

theorem failsOnly_afterCatalogs (config : SiteConfig) (catalogs : List Path) :
    FailsOnly Failure.IsOther (do
      BuildAction.note fun report => { report with catalogs }
      let assets ← BuildAction.onDisk config.copyAssets
      BuildAction.note fun report => { report with assets }) :=
  (failsOnly_note _ _).bind fun _ =>
    (failsOnly_onDisk (failsOnly_copyAssets config)).bind fun _ => failsOnly_note _ _

/-- A build that stops at an error in the input leaves the pages of the sources before that error,
complete, and nothing else. -/
theorem leavesOnlyPages_of_input_error (wellFormed : before.WellFormed) (linkless : before.Linkless)
    (failed : config.buildOn before = (.error failure, progress)) (isInput : failure.IsInputError) :
    ∃ sources, config.FailsAt before progress.disk failure sources progress.done ∧
      config.LeavesOnlyPages before progress.disk sources progress.done := by
  have run : runOn config.build { disk := before } = (.error failure, progress) := failed
  rw [build, runOn_bind_eq_error_iff] at run
  -- It has stopped while it looked for the sources,
  rcases run with stopped | ⟨sources, first, discovered, run⟩
  · rcases runOn_onDisk_eq_iff.mp stopped with ⟨stopped, report⟩
    have same := (onlyLooks_sources config).eq_of_runOn stopped
    have none : progress.done = [] := by
      rw [Progress.done, report]
      rfl
    rw [same] at stopped ⊢
    rw [none]
    have areSources : config.AreSources before ([] ++ []) := ⟨by simp, by simp, by simp⟩
    exact ⟨[], .discovery stopped, leavesOnlyPages_of_builds linkless areSources .nothing⟩
  rcases runOn_onDisk_eq_iff.mp discovered with ⟨discovered, report⟩
  rcases areSources_of_runOn_sources wellFormed discovered with ⟨same, areSources⟩
  have noneDone : first.done = [] := by
    rw [Progress.done, report]
    rfl
  rw [same] at discovered
  rw [runOn_bind_eq_error_iff] at run
  -- or at a source,
  rcases run with stopped | ⟨_, second, looped, run⟩
  · rcases buildsUntil_of_runOn_forM stopped with ⟨done, sameDone, course⟩
    rw [noneDone, List.nil_append] at sameDone
    rw [same] at course
    rw [sameDone]
    cases course with
    | stop order builds failed =>
        subst order
        rcases leavesOnlyPages_of_stop linkless areSources isInput builds failed with
          ⟨fails, leaves⟩
        exact ⟨_, .source discovered rfl fails, leaves⟩
  rcases buildsUntil_of_runOn_forM looped with ⟨done, sameDone, course⟩
  rw [noneDone, List.nil_append] at sameDone
  rw [same] at course
  cases course with
  | finish order builds =>
      subst order
      rw [runOn_bind_eq_error_iff] at run
      -- or at a catalog; with an asset it cannot be an error in the input.
      rcases run with stopped | ⟨catalogs, third, _, later⟩
      · rcases runOn_onDisk_eq_iff.mp stopped with ⟨stopped, report⟩
        rcases catalogFails_of_runOn_buildCatalogs isInput stopped with ⟨sameDisk, fails⟩
        have allDone : progress.done = sources := by
          rw [Progress.done, report]
          exact sameDone
        rw [allDone, sameDisk]
        rw [← List.append_nil sources] at areSources
        have leaves := leavesOnlyPages_of_builds linkless areSources builds
        rw [List.append_nil] at leaves
        exact ⟨sources, .catalog discovered fails, leaves⟩
      · exact absurd isInput (failsOnly_afterCatalogs config catalogs _ _ _ later)

/-- The page of the first source has taken its place when the second one turns out to have no title.
-/
theorem leavesOnlyPages_in_place :
    ∃ disk progress failure sources,
      disk = inPlaceDisk [("a.html".toList, "/**\n# A\n*/".toList), ("b.html".toList, [])] ∧
      inPlace.buildOn disk = (.error failure, progress) ∧
      progress.done = [inPlaceSource "a.html".toList] ∧
      inPlace.FailsAt disk progress.disk failure sources progress.done ∧
      inPlace.LeavesOnlyPages disk progress.disk sources progress.done := by
  let disk := inPlaceDisk [("a.html".toList, "/**\n# A\n*/".toList), ("b.html".toList, [])]
  let failure := Failure.reported (.untitled (inPlaceSource "b.html".toList).toText)
  have wellFormed : disk.WellFormed := ⟨by decide, by decide⟩
  have linkless : disk.Linkless := linkless_of_entries (by simp [disk, inPlaceDisk])
  have found : (runOn inPlace.sources disk).1 =
      .ok [inPlaceSource "a.html".toList, inPlaceSource "b.html".toList] := by
    delta sources sourcesOf children Disk.list
    rw [sortedNames_eq_insertionSort]
    decide +kernel
  have discovered := (onlyLooks_sources inPlace).runOn_eq found
  have failed : (inPlace.buildOn disk).1 = .error failure := by
    change (runOn inPlace.build { disk }).1 = _
    rw [build, runOn_bind, runOn_onDisk, discovered]
    decide +kernel
  have done : (inPlace.buildOn disk).2.done = [inPlaceSource "a.html".toList] := by
    change (runOn inPlace.build { disk }).2.done = _
    rw [build, runOn_bind, runOn_onDisk, discovered]
    decide +kernel
  rcases leavesOnlyPages_of_input_error wellFormed linkless (Prod.ext failed rfl) trivial with
    ⟨sources, failsAt, leaves⟩
  exact ⟨disk, _, failure, sources, rfl, Prod.ext failed rfl, done, failsAt, leaves⟩

end SiteConfig

end ScriptSite
