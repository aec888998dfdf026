import ScriptSite.Proofs.Site.Copies
import ScriptSite.Proofs.Site.Stages

/-!
# The course of a build

A build that succeeds writes the pages of the sources, then those of the catalogs, and then copies
the assets, all of it below the root of the output, which is there when the assets are copied
(`course_of_stages`).
-/

namespace ScriptSite.SiteConfig

open Disk

variable {config : SiteConfig} {before paged listed last after : Disk} {sources outs : List Path}
  {catalog : Path} {element : Text}

theorem runOn_loadCatalog_eq_ok {entries : List CatalogEntry}
    (run : runOn (loadCatalog catalog element) before = (.ok entries, after)) :
    after = before ∧ ∃ address bytes, before.findReadable catalog = .ok (address, .file bytes) ∧
      Catalog.readBytes element bytes = .ok entries := by
  rw [loadCatalog, runOn_bind_eq_ok_iff] at run
  rcases run with ⟨_, _, required, run⟩
  rcases runOn_requireFile_eq_ok_iff.mp required with ⟨_, rfl⟩
  rw [runOn_bind_eq_ok_iff] at run
  rcases run with ⟨bytes, _, read, run⟩
  rw [runOn_liftExcept, Prod.mk.injEq, mapError_eq_ok_iff] at run
  rw [runOn_adapt_eq_ok_iff, runOn_readFile_eq_ok_iff] at read
  rcases read with ⟨⟨address, found⟩, rfl⟩
  exact ⟨run.2.symm, address, bytes, found, run.1⟩

/-- Whether the page of a catalog, which is read from one disk, is there on another one. -/
def HasCatalogPage (config : SiteConfig) (before after : Disk) (catalog out : Path)
    (element : Text) (render : List CatalogEntry → Text → Text) : Prop :=
  ∃ bytes entries there address, before.find catalog = .ok (there, .file bytes) ∧
    Catalog.readBytes element bytes = .ok entries ∧
    after.find out = .ok (address, .file (Utf8.encode (render entries config.siteName)))

theorem hasCatalogPage_of_runOn_buildCatalogs (linkless : before.Linkless) {catalogs : List Path}
    (run : runOn config.buildCatalogs before = (.ok catalogs, after)) :
    catalogs = [config.indexPage, config.demosPage] ∧
      config.HasCatalogPage before after config.indexPath config.indexPage Catalog.exampleElement
        Page.index ∧
      config.HasCatalogPage before after config.demosPath config.demosPage Catalog.demoElement
        Page.demos := by
  rcases runOn_buildCatalogs_eq_ok_iff.mp run with
    ⟨examples, demos, mid, loaded, demosLoaded, indexWritten, demosWritten, rfl⟩
  rcases runOn_loadCatalog_eq_ok loaded with ⟨_, there, bytes, found, read⟩
  rcases runOn_loadCatalog_eq_ok demosLoaded with ⟨_, demosThere, demosBytes, demosFound, demosRead⟩
  have index := ensures_writePage linkless indexWritten
  have midLinkless := index.changes.linkless linkless
  have demosPage := ensures_writePage midLinkless demosWritten
  rcases index.found rfl with ⟨address, indexFound⟩
  rcases demosPage.found rfl with ⟨demosAddress, demosPageFound⟩
  have apart : config.indexPage.Apart config.demosPage :=
    apart_child_child (by decide) (by decide) (by decide)
  refine ⟨rfl, ⟨bytes, examples, there, address, find_of_findReadable found, read, ?_⟩,
    ⟨demosBytes, demos, demosThere, demosAddress, find_of_findReadable demosFound, demosRead,
      demosPageFound⟩⟩
  refine demosPage.changes.find_eq_ok midLinkless ?_ indexFound
  rintro _ rfl
  exact apart

/-- What is written in the course of a build, when its pages have been made, when those of the
catalogs have been made too, and in the end. -/
structure Course (config : SiteConfig) (before paged listed last : Disk) : Prop where
  orderly : before.Orderly
  pages : Writes config.IsOutputDirectory (·.IsWithin config.outputRoot) before paged
  catalogs : Writes config.IsOutputDirectory (·.IsWithin config.outputRoot) paged listed
  rooted : config.HasOutputRoot listed
  copied : Copied (listed.reach + 1) (config.assetPairs config.assets) listed last

theorem course_of_stages (orderly : before.Orderly) (areSources : config.AreSources before sources)
    (separates : config.SeparatesOutput before)
    (pages : runOn (sources.mapM config.buildPage) before = (.ok outs, paged))
    {catalogs : List Path}
    (catalogPages : runOn config.buildCatalogs paged = (.ok catalogs, listed)) {assets : List Path}
    (copies : runOn config.copyAssets listed = (.ok assets, last)) :
    config.Course before paged listed last := by
  have within : ∀ path, config.IsOutput path → path.IsWithin config.outputRoot :=
    fun _ isOutput => isOutput.isWithin separates.ne_up
  have pagesWrite := (writesOnly_mapM_buildPage areSources _ _ _ pages orderly).weaken
    (fun _ => id) within
  have pagedOrderly := pagesWrite.orderly orderly
  have catalogsWrite := (writesOnly_buildCatalogs config _ _ _ catalogPages pagedOrderly).weaken
    (fun _ => id) within
  have listedOrderly := catalogsWrite.orderly pagedOrderly
  have rooted : config.HasOutputRoot listed := by
    rcases (hasCatalogPage_of_runOn_buildCatalogs pagedOrderly.linkless catalogPages).2.1 with
      ⟨_, _, _, _, _, _, found⟩
    rcases exists_directory_of_find found with ⟨directory, above, _⟩
    exact ⟨directory, above⟩
  exact ⟨orderly, pagesWrite, catalogsWrite, rooted,
    (copied_of_runOn_copyAssets listedOrderly rooted separates.isProper copies).2⟩

namespace Course

theorem pagedOrderly (course : config.Course before paged listed last) : paged.Orderly :=
  course.pages.orderly course.orderly

theorem listedOrderly (course : config.Course before paged listed last) : listed.Orderly :=
  course.catalogs.orderly course.pagedOrderly

/-- Copying the assets writes below the root of the output. -/
theorem copies (course : config.Course before paged listed last)
    (separates : config.SeparatesOutput before) :
    Writes (·.IsWithin config.outputRoot) (·.IsWithin config.outputRoot) listed last := by
  have within : ∀ path : Path, (∃ item ∈ config.assetPairs config.assets, path.IsWithin item.2) →
      path.IsWithin config.outputRoot := by
    rintro path ⟨item, mem, within⟩
    rcases List.mem_map.mp mem with ⟨asset, assetMem, rfl⟩
    exact within.trans (isWithin_assetTarget (separates.isProper asset assetMem)
      (separates.ne_up asset assetMem))
  exact (course.copied.writes course.listedOrderly).weaken within within

theorem lastOrderly (course : config.Course before paged listed last) : last.Orderly :=
  (course.copied.writes course.listedOrderly).orderly course.listedOrderly

/-- All that a build writes is on the way to the root of the output, or below it. -/
theorem writes (course : config.Course before paged listed last)
    (separates : config.SeparatesOutput before) :
    Writes config.IsOutputDirectory (·.IsWithin config.outputRoot) before last :=
  course.pages.trans (course.catalogs.trans
    ((course.copies separates).weaken (fun _ within => Or.inr (Or.inl within)) (fun _ => id)))

end Course

end ScriptSite.SiteConfig
