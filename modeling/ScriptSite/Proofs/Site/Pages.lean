import ScriptSite.Proofs.Site.Discovery

/-!
# The pages of a build

Making a page reads its source and renders it before anything is written, and then writes one file
at the path of the page and makes the directories above it. Run over all sources, each source is
still what it was when its turn comes, because no page is written where another source is, and each
page stays what it is, because no other page is written there (`Builds.holdsPage`). The pages of the
catalogs are written beside the groups, so all pages are still right after them.
-/

namespace ScriptSite

open Disk

variable {before mid after : Disk} {out source : Path} {page text : Text}

theorem agrees_readFile {path : Path} (same : after.findReadable path = before.findReadable path) :
    Agrees (Disk.readFile path) before after := by
  refine ⟨(runOn (Disk.readFile path) before).1, ?_, ?_⟩
  · rw [Disk.readFile, runOn_bind, runOn_get]
    simp only
    split <;> rfl
  · rw [Disk.readFile, runOn_bind, runOn_bind, runOn_get, runOn_get]
    simp only [same]
    split <;> rfl

theorem runOn_readFile_eq_ok_iff {path : Path} {bytes : Bytes} :
    runOn (Disk.readFile path) before = (.ok bytes, after) ↔
      (∃ address, before.findReadable path = .ok (address, .file bytes)) ∧ after = before := by
  rw [Disk.readFile, runOn_bind, runOn_get]
  simp only
  rcases before.findReadable path with fault | ⟨address, entry⟩
  · simp
  · cases entry <;> simp [eq_comm]

theorem agrees_readSource (same : after.findReadable source = before.findReadable source) :
    Agrees (readSource source) before after := by
  refine ((agrees_readFile same).adapt _).bind ?_
  intro bytes
  split
  · exact ⟨_, rfl, rfl⟩
  · exact ⟨_, rfl, rfl⟩

/-- Writing a page changes nothing but its file and the directories above it. -/
theorem ensures_writePage (linkless : before.Linkless) {outcome : Except Failure Unit}
    (run : runOn (writePage out page) before = (outcome, after)) :
    Ensures out.parent.LeadsThrough (· = out) out (.file (Utf8.encode page)) outcome before
      after := by
  rw [writePage, runOn_adapt] at run
  cases run
  refine Ensures.mapError ?_ (Failure.ofWriting out)
  rw [runOn_bind, runOn_adapt]
  rcases making : runOn (ensureDirectories out.parent) before with ⟨made, mid⟩
  have directories : Changes out.parent.LeadsThrough (· = out) before mid :=
    (ensures_ensureDirectories linkless making).changes.weaken (fun _ => id) (fun _ => False.elim)
  cases made with
  | error fault => exact .of_error directories
  | ok =>
      rcases writing : runOn (Disk.writeFile out (Utf8.encode page)) mid with ⟨written, after⟩
      have file := ensures_writeFile (directories.linkless linkless) writing
      simp only [Except.mapError, writing]
      exact (file.weaken (fun _ => False.elim) (fun _ => id)).trans directories linkless

namespace SiteConfig

variable {config : SiteConfig} {sources : List Path}

/-- Whether a path is where the page of one of the sources is written. -/
def IsPageOf (config : SiteConfig) (sources : List Path) (out : Path) : Prop :=
  ∃ source ∈ sources, config.outputPath source = .ok out

/-- Whether a path is that of a directory above the page of one of the sources. -/
def IsAbovePageOf (config : SiteConfig) (sources : List Path) (above : Path) : Prop :=
  ∃ out, config.IsPageOf sources out ∧ out.parent.LeadsThrough above

/-- Whether a disk has the page of a source, complete and as it is made from the text that the
source has on another disk. -/
def HoldsPage (config : SiteConfig) (before after : Disk) (source : Path) : Prop :=
  ∃ out text page address, config.outputPath source = .ok out ∧
    runOn (readSource source) before = (.ok text, before) ∧
    Page.example? text config.siteName = .ok page ∧
    after.find out = .ok (address, .file (Utf8.encode page))

/-- The pages of sources are made one after the other. -/
inductive Builds (config : SiteConfig) : Disk → List Path → Disk → Prop
  | nothing {disk : Disk} : config.Builds disk [] disk
  | page {before mid after : Disk} {source out : Path} {sources : List Path}
      (made : runOn (config.buildPage source) before = (.ok out, mid))
      (rest : config.Builds mid sources after) : config.Builds before (source :: sources) after

theorem builds_of_runOn_mapM {outs : List Path}
    (run : runOn (sources.mapM config.buildPage) before = (.ok outs, after)) :
    config.Builds before sources after := by
  induction sources generalizing before outs with
  | nil =>
      rw [List.mapM_nil, runOn_pure, Prod.mk.injEq] at run
      rw [← run.2]
      exact .nothing
  | cons source sources ih =>
      rcases runOn_mapM_cons_eq_ok_iff.mp run with ⟨out, others, mid, _, made, rest⟩
      exact .page made (ih rest)

theorem agrees_examplePage (same : after.findReadable source = before.findReadable source) :
    Agrees (config.examplePage source) before after :=
  (agrees_readSource same).bind fun _ => agrees_liftExcept _ _ _

theorem exists_of_runOn_examplePage
    (run : runOn (config.examplePage source) before = (.ok page, after)) :
    after = before ∧ ∃ text, runOn (readSource source) before = (.ok text, before) ∧
      Page.example? text config.siteName = .ok page := by
  rw [examplePage, runOn_bind_eq_ok_iff] at run
  rcases run with ⟨text, mid, read, run⟩
  rcases (agrees_readSource rfl).runOn_eq read with ⟨rfl, _⟩
  rw [runOn_liftExcept, Prod.mk.injEq] at run
  refine ⟨run.2.symm, text, read, ?_⟩
  rcases outcome : Page.example? text config.siteName with _ | page'
  · simp [outcome, Except.mapError] at run
  · simpa [outcome, Except.mapError] using run.1

/-- A page is rendered before it is written. -/
theorem exists_of_runOn_buildPage
    (run : runOn (config.buildPage source) before = (.ok out, after)) :
    config.outputPath source = .ok out ∧
      ∃ page, runOn (config.examplePage source) before = (.ok page, before) ∧
        runOn (writePage out page) before = (.ok (), after) := by
  rw [buildPage, runOn_bind_eq_ok_iff] at run
  rcases run with ⟨page, mid, rendered, run⟩
  rcases exists_of_runOn_examplePage rendered with ⟨rfl, _⟩
  rw [runOn_bind_eq_ok_iff] at run
  rcases run with ⟨out', mid', located, run⟩
  rw [runOn_liftExcept, Prod.mk.injEq] at located
  rcases located with ⟨located, rfl⟩
  rw [runOn_bind_eq_ok_iff] at run
  rcases run with ⟨_, last, written, run⟩
  rw [runOn_pure, Prod.mk.injEq, Except.ok.injEq] at run
  rcases run with ⟨rfl, rfl⟩
  exact ⟨located, page, rendered, written⟩

/-- Making the page of a source changes the disk at its own page only, which it then has. -/
theorem step_of_runOn_buildPage (linkless : before.Linkless)
    (run : runOn (config.buildPage source) before = (.ok out, after)) :
    Changes (config.IsAbovePageOf [source]) (config.IsPageOf [source]) before after ∧
      config.HoldsPage before after source := by
  rcases exists_of_runOn_buildPage run with ⟨isOut, page, rendered, written⟩
  have ensures := ensures_writePage linkless written
  have isPage : config.IsPageOf [source] out := ⟨source, by simp, isOut⟩
  constructor
  · refine ensures.changes.weaken ?_ ?_
    · intro above isAbove
      exact ⟨out, isPage, isAbove⟩
    · rintro _ rfl
      exact isPage
  · rcases exists_of_runOn_examplePage rendered with ⟨_, text, read, isExample⟩
    rcases ensures.found rfl with ⟨address, found⟩
    exact ⟨out, text, page, address, isOut, read, isExample, found⟩

theorem AreSources.exists_find (areSources : config.AreSources before sources)
    (mem : source ∈ sources) :
    ∃ address entry, before.find source = .ok (address, entry) ∧ entry ≠ .directory := by
  rcases test_eq_true_iff.mp (areSources.isFile source mem) with ⟨address, entry, found, isFile⟩
  refine ⟨address, entry, found, ?_⟩
  rintro rfl
  simp [isFileEntry] at isFile

namespace AreSources

variable {all done : List Path} {made written : Path → Prop}

theorem apart_page (areSources : config.AreSources before all) (within : done ⊆ all)
    (mem : source ∈ all) (notDone : source ∉ done) (isPage : config.IsPageOf done out) :
    source.Apart out := by
  rcases isPage with ⟨other, otherDone, isOut⟩
  rcases areSources.isSource source mem with ⟨_, _, isSource⟩
  rcases areSources.isSource other (within otherDone) with ⟨_, _, isOther⟩
  refine isSource.apart_page isOther ?_ isOut
  rintro rfl
  exact notDone otherDone

theorem page_apart_page {otherOut : Path} (areSources : config.AreSources before all)
    (within : done ⊆ all) (mem : source ∈ all) (notDone : source ∉ done)
    (isOut : config.outputPath source = .ok out) (isPage : config.IsPageOf done otherOut) :
    out.Apart otherOut := by
  rcases isPage with ⟨other, otherDone, isOtherOut⟩
  rcases areSources.isSource source mem with ⟨_, _, isSource⟩
  rcases areSources.isSource other (within otherDone) with ⟨_, _, isOther⟩
  refine isSource.page_apart_page isOther ?_ isOut isOtherOut
  rintro rfl
  exact notDone otherDone

theorem child_apart_page {top : Text} (areSources : config.AreSources before all)
    (within : done ⊆ all) (notUp : top ≠ Path.upName) (isPage : config.IsPageOf done out) :
    (config.outputRoot.child top).Apart out := by
  rcases isPage with ⟨other, otherDone, isOut⟩
  rcases areSources.isSource other (within otherDone) with ⟨_, _, isOther⟩
  exact isOther.child_apart_page notUp isOut

/-- Sources stay what they are, and can be read as before, while pages of other sources are written.
-/
theorem find_eq (areSources : config.AreSources before all) (linkless : before.Linkless)
    (within : done ⊆ all) (changes : Changes made (config.IsPageOf done) before after)
    (mem : source ∈ all) (notDone : source ∉ done) :
    after.find source = before.find source ∧
      after.findReadable source = before.findReadable source := by
  rcases areSources.exists_find mem with ⟨address, entry, found, notDirectory⟩
  have apart : ∀ out, config.IsPageOf done out → source.Apart out :=
    fun out isPage => areSources.apart_page within mem notDone isPage
  exact ⟨(changes.find_eq_ok linkless apart found).trans found.symm,
    changes.findReadable_eq linkless apart found notDirectory⟩

end AreSources

theorem HoldsPage.of_findReadable_eq (holds : config.HoldsPage mid after source)
    (same : mid.findReadable source = before.findReadable source) :
    config.HoldsPage before after source := by
  rcases holds with ⟨out, text, page, address, isOut, read, isExample, found⟩
  exact ⟨out, text, page, address, isOut, ((agrees_readSource same).runOn_eq read).2, isExample,
    found⟩

theorem HoldsPage.mono {made written : Path → Prop} (holds : config.HoldsPage before mid source)
    (linkless : mid.Linkless) (changes : Changes made written mid after)
    (apart : ∀ out other, config.outputPath source = .ok out → written other → out.Apart other) :
    config.HoldsPage before after source := by
  rcases holds with ⟨out, text, page, address, isOut, read, isExample, found⟩
  exact ⟨out, text, page, address, isOut, read, isExample,
    changes.find_eq_ok linkless (fun other => apart out other isOut) found⟩

theorem IsPageOf.mono {fewer more : List Path} (isPage : config.IsPageOf fewer out)
    (within : fewer ⊆ more) : config.IsPageOf more out := by
  rcases isPage with ⟨source, mem, isOut⟩
  exact ⟨source, within mem, isOut⟩

theorem changes_mono {fewer more : List Path}
    (changes : Changes (config.IsAbovePageOf fewer) (config.IsPageOf fewer) before after)
    (within : fewer ⊆ more) :
    Changes (config.IsAbovePageOf more) (config.IsPageOf more) before after := by
  refine changes.weaken ?_ (fun _ isPage => isPage.mono within)
  rintro above ⟨out, isPage, isAbove⟩
  exact ⟨out, isPage.mono within, isAbove⟩

/-- When the pages of different sources have been made, the disk has them all, as they are made from
the sources that were there in the beginning, and nothing else has changed. -/
theorem Builds.holdsPage (builds : config.Builds before sources after) (linkless : before.Linkless)
    (areSources : config.AreSources before sources) :
    Changes (config.IsAbovePageOf sources) (config.IsPageOf sources) before after ∧
      ∀ source ∈ sources, config.HoldsPage before after source := by
  induction builds with
  | nothing => exact ⟨.refl _ _ _, by simp⟩
  | @page before mid after source out sources made _ ih =>
      rcases step_of_runOn_buildPage linkless made with ⟨step, holds⟩
      rcases List.nodup_cons.mp areSources.nodup with ⟨notLater, laterNodup⟩
      have within : sources ⊆ source :: sources := List.subset_cons_self source sources
      have justThis : [source] ⊆ source :: sources := by
        simp
      -- The page is apart from the sources to come, so they are still what they were.
      have same : ∀ later ∈ sources, mid.find later = before.find later ∧
          mid.findReadable later = before.findReadable later := by
        intro later mem
        refine areSources.find_eq linkless justThis step (within mem) ?_
        rw [List.mem_singleton]
        rintro rfl
        exact notLater mem
      have midSources : config.AreSources mid sources := by
        refine ⟨laterNodup, fun later mem => areSources.isSource later (within mem), ?_⟩
        intro later mem
        rw [Disk.isFile, Disk.test, (same later mem).1]
        exact areSources.isFile later (within mem)
      have midLinkless := step.linkless linkless
      rcases ih midLinkless midSources with ⟨rest, restHolds⟩
      refine ⟨(changes_mono step justThis).trans (changes_mono rest within) linkless, ?_⟩
      intro this mem
      rcases List.mem_cons.mp mem with rfl | mem
      -- The page that has just been made is apart from the pages to come.
      · refine holds.mono midLinkless rest ?_
        intro out other isOut isPage
        exact areSources.page_apart_page within List.mem_cons_self notLater isOut isPage
      · exact (restHolds this mem).of_findReadable_eq (same this mem).2

theorem onlyLooks_loadCatalog (path : Path) (element : Text) :
    OnlyLooks (loadCatalog path element) := by
  refine (onlyLooks_requireFile _ path).bind fun _ => ?_
  refine OnlyLooks.bind (fun disk => ?_) fun bytes => ?_
  · rcases (agrees_readFile (rfl : disk.findReadable path = _)).adapt (Failure.ofReading path) with
      ⟨outcome, run, _⟩
    rw [run]
  · intro disk
    rw [runOn_liftExcept]

/-- Both catalogs are loaded before a page is written for either. -/
theorem runOn_buildCatalogs_eq_ok_iff {outs : List Path} :
    runOn config.buildCatalogs before = (.ok outs, after) ↔
      ∃ examples demos mid,
        runOn (loadCatalog config.indexPath Catalog.exampleElement) before =
          (.ok examples, before) ∧
        runOn (loadCatalog config.demosPath Catalog.demoElement) before = (.ok demos, before) ∧
        runOn (writePage config.indexPage (Page.index examples config.siteName)) before =
          (.ok (), mid) ∧
        runOn (writePage config.demosPage (Page.demos demos config.siteName)) mid =
          (.ok (), after) ∧
        outs = [config.indexPage, config.demosPage] := by
  rw [buildCatalogs, runOn_bind_eq_ok_iff]
  constructor
  · rintro ⟨examples, first, loaded, run⟩
    have sameFirst := (onlyLooks_loadCatalog _ _).eq_of_runOn loaded
    subst sameFirst
    rw [runOn_bind_eq_ok_iff] at run
    rcases run with ⟨demos, second, demosLoaded, run⟩
    have sameSecond := (onlyLooks_loadCatalog _ _).eq_of_runOn demosLoaded
    subst sameSecond
    rw [runOn_bind_eq_ok_iff] at run
    rcases run with ⟨_, mid, indexWritten, run⟩
    rw [runOn_bind_eq_ok_iff] at run
    rcases run with ⟨_, last, demosWritten, run⟩
    rw [runOn_pure, Prod.mk.injEq, Except.ok.injEq] at run
    rcases run with ⟨rfl, rfl⟩
    exact ⟨examples, demos, mid, loaded, demosLoaded, indexWritten, demosWritten, rfl⟩
  · rintro ⟨examples, demos, mid, loaded, demosLoaded, indexWritten, demosWritten, rfl⟩
    refine ⟨examples, before, loaded, ?_⟩
    rw [runOn_bind_eq_ok_iff]
    refine ⟨demos, before, demosLoaded, ?_⟩
    rw [runOn_bind_eq_ok_iff]
    refine ⟨⟨⟩, mid, indexWritten, ?_⟩
    rw [runOn_bind_eq_ok_iff]
    exact ⟨⟨⟩, after, demosWritten, rfl⟩

/-- Whether a path is that of the page of a catalog. -/
def IsCatalogPage (config : SiteConfig) (out : Path) : Prop :=
  out = config.indexPage ∨ out = config.demosPage

/-- The pages of the catalogs are written beside the groups, below no other directory than the root
of the output. -/
theorem changes_of_runOn_buildCatalogs (linkless : before.Linkless) {outs : List Path}
    (run : runOn config.buildCatalogs before = (.ok outs, after)) :
    Changes config.outputRoot.LeadsThrough config.IsCatalogPage before after := by
  rcases runOn_buildCatalogs_eq_ok_iff.mp run with ⟨_, _, mid, _, _, indexWritten, demosWritten, _⟩
  have index := (ensures_writePage linkless indexWritten).changes
  have demosPage := (ensures_writePage (index.linkless linkless) demosWritten).changes
  rw [indexPage, Path.parent_child] at index
  rw [SiteConfig.demosPage, Path.parent_child] at demosPage
  exact (index.weaken (fun _ => id) (fun _ => Or.inl)).trans
    (demosPage.weaken (fun _ => id) (fun _ => Or.inr)) linkless

/-- Different sources have different pages, and when the pages of all sources and then the pages of
the catalogs have been made, every source has its page, as it is made from the text that the source
had in the beginning. -/
theorem holdsPage_of_all_built (wellFormed : before.WellFormed) (linkless : before.Linkless)
    {found : Disk} (discovered : runOn config.sources before = (.ok sources, found)) :
    (∀ source ∈ sources, ∃ out, config.outputPath source = .ok out ∧
      ∀ other ∈ sources, config.outputPath other = .ok out → other = source) ∧
      ∀ outs catalogs mid after, runOn (sources.mapM config.buildPage) found = (.ok outs, mid) →
        runOn config.buildCatalogs mid = (.ok catalogs, after) →
        ∀ source ∈ sources, config.HoldsPage before after source := by
  rcases areSources_of_runOn_sources wellFormed discovered with ⟨rfl, areSources⟩
  constructor
  · intro source mem
    rcases areSources.isSource source mem with ⟨group, name, isSource⟩
    refine ⟨_, isSource.outputPath_eq, ?_⟩
    intro other otherMem isOut
    rcases areSources.isSource other otherMem with ⟨_, _, isOther⟩
    exact isOther.eq_of_outputPath_eq isSource (isOut.trans isSource.outputPath_eq.symm)
  · intro outs catalogs mid after built catalogsBuilt source mem
    rcases (builds_of_runOn_mapM built).holdsPage linkless areSources with ⟨changes, holds⟩
    have midLinkless := changes.linkless linkless
    refine (holds source mem).mono midLinkless
      (changes_of_runOn_buildCatalogs midLinkless catalogsBuilt) ?_
    intro out page isOut isCatalogPage
    have isPage : config.IsPageOf sources out := ⟨source, mem, isOut⟩
    rcases isCatalogPage with rfl | rfl
    · exact (areSources.child_apart_page (List.Subset.refl _) (by decide) isPage).symm
    · exact (areSources.child_apart_page (List.Subset.refl _) (by decide) isPage).symm

/-- A site that is built where its sources are: the page of a source takes its place. -/
def inPlace : SiteConfig where
  inputRoot := { slashes := 1, names := ["site".toList] }
  outputRoot := { slashes := 1, names := ["site".toList] }
  assetDirectories := []
  assetFiles := []
  extension := ".html".toList
  indexCatalog := "index.xml".toList
  demosCatalog := "index.xml".toList
  siteName := "Site".toList

/-- The path of a source of that site. -/
def inPlaceSource (name : Text) : Path :=
  { slashes := 1, names := ["site".toList, "group".toList, name] }

/-- The disk of that site with the files of its group. -/
def inPlaceDisk (files : List (Text × Text)) : Disk where
  entries :=
    [(["site".toList], .directory), (["site".toList, "group".toList], .directory),
      (["site".toList, "index.xml".toList], .file (Utf8.encode "<root/>".toList))] ++
    files.map fun (name, text) => (["site".toList, "group".toList, name], .file (Utf8.encode text))

/-- Both pages are made from the sources whose places they have taken. -/
theorem holdsPage_in_place :
    ∃ disk sources outs catalogs mid after,
      disk = inPlaceDisk [("a.html".toList, "/**\n# A\n*/a();".toList),
        ("a.b.html".toList, "/**\n# B\n*/b();".toList)] ∧
      sources = [inPlaceSource "a.b.html".toList, inPlaceSource "a.html".toList] ∧
      runOn inPlace.sources disk = (.ok sources, disk) ∧
      runOn (sources.mapM inPlace.buildPage) disk = (.ok outs, mid) ∧
      runOn inPlace.buildCatalogs mid = (.ok catalogs, after) ∧
      ∀ source ∈ sources, inPlace.HoldsPage disk after source := by
  let disk := inPlaceDisk [("a.html".toList, "/**\n# A\n*/a();".toList),
    ("a.b.html".toList, "/**\n# B\n*/b();".toList)]
  let sources := [inPlaceSource "a.b.html".toList, inPlaceSource "a.html".toList]
  have wellFormed : disk.WellFormed := ⟨by decide, by decide⟩
  have linkless : disk.Linkless := linkless_of_entries (by simp [disk, inPlaceDisk])
  have found : (runOn inPlace.sources disk).1 = .ok sources := by
    delta SiteConfig.sources sourcesOf children Disk.list
    rw [sortedNames_eq_insertionSort]
    decide +kernel
  have discovered := (onlyLooks_sources inPlace).runOn_eq found
  have built : (runOn (sources.mapM inPlace.buildPage) disk).1 = .ok sources := by
    decide +kernel
  have catalogsBuilt :
      (runOn inPlace.buildCatalogs (runOn (sources.mapM inPlace.buildPage) disk).2).1 =
        .ok [inPlace.indexPage, inPlace.demosPage] := by
    decide +kernel
  exact ⟨disk, sources, _, _, _, _, rfl, rfl, discovered, Prod.ext built rfl,
    Prod.ext catalogsBuilt rfl,
    (holdsPage_of_all_built wellFormed linkless discovered).2 _ _ _ _ (Prod.ext built rfl)
      (Prod.ext catalogsBuilt rfl)⟩

end SiteConfig

end ScriptSite
