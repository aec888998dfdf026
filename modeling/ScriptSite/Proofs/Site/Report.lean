import ScriptSite.Proofs.Site.Course

/-!
# What a report tells

All that a build makes goes into one directory under its own name, and what comes later goes over
what has been there. So what a report tells about is there in the end, unless an asset has brought a
file to the same place (`isTruthful_of_buildOn`). This happens: an asset with the name of the page
of a catalog takes the place of that page (`index_page_overwritten`).
-/

namespace ScriptSite.SiteConfig

open Disk

variable {config : SiteConfig} {before mid listed after : Disk} {sources outs : List Path}
  {catalog : Path} {element : Text} {progress : Progress}

/-- Whether the page of a catalog is there, or a file that an asset brings there. -/
def HoldsCatalogPage (config : SiteConfig) (before after : Disk) (catalog out : Path)
    (element : Text) (render : List CatalogEntry → Text → Text) : Prop :=
  ∃ bytes entries, before.get? (before.addressOf catalog) = some (.file bytes) ∧
    Catalog.readBytes element bytes = .ok entries ∧
    HoldsUnder (config.assetPairs config.assets) before after (before.addressOf out)
      (.file (Utf8.encode (render entries config.siteName)))

/-- Whether what a report tells about is there, but for what an asset has taken the place of: the
pages of all sources, the pages of the catalogs, and the assets with all that was in them. -/
structure IsTruthful (config : SiteConfig) (before : Disk) (progress : Progress) : Prop where
  sources : runOn config.sources before = (.ok (progress.report.pages.map Prod.fst), before)
  pages : ∀ source out, (source, out) ∈ progress.report.pages →
    config.outputPath source = .ok out ∧
      ∃ text page, runOn (readSource source) before = (.ok text, before) ∧
        Page.example? text config.siteName = .ok page ∧
        HoldsUnder (config.assetPairs config.assets) before progress.disk (before.addressOf out)
          (.file (Utf8.encode page))
  catalogs : progress.report.catalogs = [config.indexPage, config.demosPage]
  index : config.HoldsCatalogPage before progress.disk config.indexPath config.indexPage
    Catalog.exampleElement Page.index
  demos : config.HoldsCatalogPage before progress.disk config.demosPath config.demosPage
    Catalog.demoElement Page.demos
  assets : progress.report.assets = config.assets.map config.assetTarget
  copies : ∀ earlier asset later, config.assets = earlier ++ asset :: later → ∀ rest entry,
    before.get? (before.addressOf asset ++ rest) = some entry →
      HoldsUnder (config.assetPairs later) before progress.disk
        (before.addressOf (config.assetTarget asset) ++ rest) entry
  finds : ∀ out ∈ progress.report.pages.map Prod.snd ++ progress.report.catalogs ++
    progress.report.assets, ∃ entry, progress.disk.find out = .ok (before.addressOf out, entry)

theorem forall₂_of_runOn_mapM_buildPage
    (run : runOn (sources.mapM config.buildPage) before = (.ok outs, after)) :
    List.Forall₂ (fun source out => config.outputPath source = .ok out) sources outs := by
  induction sources generalizing before outs with
  | nil =>
      rw [List.mapM_nil, runOn_pure, Prod.mk.injEq, Except.ok.injEq] at run
      rw [← run.1]
      exact .nil
  | cons source sources ih =>
      rcases runOn_mapM_cons_eq_ok_iff.mp run with ⟨out, others, mid, rfl, made, rest⟩
      exact .cons (exists_of_runOn_buildPage made).1 (ih rest)

/-- When the pages of the catalogs have been made, the pages of all sources are there. -/
theorem holdsPage_of_runOn_buildCatalogs (linkless : before.Linkless)
    (areSources : config.AreSources before sources)
    (pages : runOn (sources.mapM config.buildPage) before = (.ok outs, mid))
    {catalogs : List Path}
    (catalogPages : runOn config.buildCatalogs mid = (.ok catalogs, listed)) :
    ∀ source ∈ sources, config.HoldsPage before listed source := by
  rcases (builds_of_runOn_mapM pages).holdsPage linkless areSources with ⟨changes, holds⟩
  have midLinkless := changes.linkless linkless
  intro source mem
  refine (holds source mem).mono midLinkless
    (changes_of_runOn_buildCatalogs midLinkless catalogPages) ?_
  rintro out _ isOut (rfl | rfl)
  · exact (areSources.child_apart_page (List.Subset.refl _) (by decide) ⟨source, mem, isOut⟩).symm
  · exact (areSources.child_apart_page (List.Subset.refl _) (by decide) ⟨source, mem, isOut⟩).symm

theorem HasCatalogPage.holds {catalog out : Path} {render : List CatalogEntry → Text → Text}
    (has : config.HasCatalogPage mid listed catalog out element render)
    (read : ∀ there bytes, mid.find catalog = .ok (there, .file bytes) →
      before.get? (before.addressOf catalog) = some (.file bytes))
    (holds : ∀ address bytes, listed.find out = .ok (address, .file bytes) →
      HoldsUnder (config.assetPairs config.assets) before after (before.addressOf out)
        (.file bytes)) :
    config.HoldsCatalogPage before after catalog out element render := by
  rcases has with ⟨bytes, entries, there, address, found, isRead, pageFound⟩
  exact ⟨bytes, entries, read there bytes found, isRead, holds address _ pageFound⟩

/-- Whether the assets have come to a disk that had all pages already. -/
structure Publishes (config : SiteConfig) (before listed last : Disk) : Prop where
  changes : Changes config.IsOutputDirectory (·.IsWithin config.outputRoot) before listed
  orderly : listed.Orderly
  isTree : listed.IsTree
  copied : Copied (listed.reach + 1) (config.assetPairs config.assets) listed last

namespace Publishes

variable {last : Disk} {address : Address} {entry : Entry} {item : Path × Path} {bytes : Bytes}

theorem brings_file_iff (publishes : config.Publishes before listed last)
    (linkless : before.Linkless) (separates : config.SeparatesOutput before)
    (mem : item ∈ config.assetPairs config.assets) :
    listed.Brings item address (.file bytes) ↔ before.Brings item address (.file bytes) :=
  publishes.changes.brings_file_iff linkless (separates.copiesInto rfl) mem
    fun _ within => addressOf_prefix_of_isWithin before within

theorem unblocked (publishes : config.Publishes before listed last) (linkless : before.Linkless)
    (separates : config.SeparatesOutput before)
    (unblocked : Unblocked before last (config.assetPairs config.assets)) :
    Unblocked listed last (config.assetPairs config.assets) := by
  intro item mem address bytes brings
  exact unblocked item mem address bytes
    ((publishes.brings_file_iff linkless separates mem).mp brings)

theorem overlaid (publishes : config.Publishes before listed last)
    (separates : config.SeparatesOutput before)
    (unblocked : Unblocked listed last (config.assetPairs config.assets)) :
    Overlaid (config.assetPairs config.assets) listed last :=
  publishes.copied.overlaid publishes.orderly publishes.isTree
    (separates.copiesInto publishes.changes.current_eq) unblocked

theorem copyChanges (publishes : config.Publishes before listed last) :
    Changes (fun path => ∃ item ∈ config.assetPairs config.assets, path.IsWithin item.2)
      (fun path => ∃ item ∈ config.assetPairs config.assets, path.IsWithin item.2) listed last :=
  (publishes.copied.writes publishes.orderly).changes publishes.orderly.linkless

theorem exists_find (publishes : config.Publishes before listed last) {out : Path}
    (found : listed.find out = .ok (address, entry)) :
    ∃ now, last.find out = .ok (before.addressOf out, now) := by
  rw [address_eq_of_find publishes.orderly.linkless found,
    addressOf_congr publishes.changes.current_eq] at found
  exact publishes.copyChanges.exists_find publishes.orderly.linkless found

theorem exists_find_target (publishes : config.Publishes before listed last) {asset : Path}
    (mem : asset ∈ config.assets) :
    ∃ now, last.find (config.assetTarget asset) =
      .ok (before.addressOf (config.assetTarget asset), now) := by
  rcases publishes.copied.exists_find publishes.orderly _ (List.mem_map_of_mem mem) with
    ⟨address, now, found⟩
  have lastLinkless := publishes.copyChanges.linkless publishes.orderly.linkless
  have sameAddress := address_eq_of_find lastLinkless found
  rw [addressOf_congr publishes.copyChanges.current_eq,
    addressOf_congr publishes.changes.current_eq] at sameAddress
  exact ⟨now, sameAddress ▸ found⟩

/-- A page that has been made is there, unless an asset has brought a file there. -/
theorem holdsUnder_of_find (publishes : config.Publishes before listed last)
    (linkless : before.Linkless) (separates : config.SeparatesOutput before)
    (unblocked : Unblocked listed last (config.assetPairs config.assets)) {out : Path}
    (found : listed.find out = .ok (address, .file bytes)) :
    HoldsUnder (config.assetPairs config.assets) before last (before.addressOf out)
      (.file bytes) := by
  have stood := publishes.isTree.get?_of_find publishes.orderly.linkless found
  rw [address_eq_of_find publishes.orderly.linkless found,
    addressOf_congr publishes.changes.current_eq] at stood
  refine HoldsUnder.congr ((publishes.overlaid separates unblocked).holdsUnder_of_file
    publishes.copyChanges stood) ?_
  exact fun item mem bytes => (publishes.brings_file_iff linkless separates mem).mp

/-- What has been copied is there, unless a later asset has brought a file there. -/
theorem holdsUnder_of_asset (publishes : config.Publishes before listed last)
    (linkless : before.Linkless) (separates : config.SeparatesOutput before)
    (unblocked : Unblocked listed last (config.assetPairs config.assets))
    {earlier later : List Path} {asset : Path} (order : config.assets = earlier ++ asset :: later)
    {rest : Address} (there : before.get? (before.addressOf asset ++ rest) = some entry) :
    HoldsUnder (config.assetPairs later) before last
      (before.addressOf (config.assetTarget asset) ++ rest) entry := by
  have pairs : config.assetPairs config.assets = config.assetPairs earlier ++
      (asset, config.assetTarget asset) :: config.assetPairs later := by
    simp [assetPairs, order]
  have mem : (asset, config.assetTarget asset) ∈ config.assetPairs config.assets := by
    simp [pairs]
  have elsewhere : ∀ path : Path, path.IsWithin config.outputRoot →
      before.addressOf path ≠ before.addressOf asset ++ rest := by
    intro path within same
    have below := addressOf_prefix_of_isWithin before within
    rw [same] at below
    exact (separates.copiesInto rfl).notMem_top mem rest below
  have brings : listed.Brings (asset, config.assetTarget asset)
      (before.addressOf (config.assetTarget asset) ++ rest) entry := by
    refine ⟨rest, by rw [addressOf_congr publishes.changes.current_eq], ?_⟩
    rw [addressOf_congr publishes.changes.current_eq]
    rcases publishes.changes.get?_eq_or_made linkless elsewhere with same | ⟨absent, _⟩
    · exact same.trans there
    · simp [there] at absent
  refine HoldsUnder.congr ((publishes.overlaid separates unblocked).holdsUnder unblocked
    publishes.orderly.linkless pairs brings) ?_
  intro item itemMem bytes
  exact (publishes.brings_file_iff linkless separates (by simp [pairs, itemMem])).mp

end Publishes

/-- A file outside of the root of the output has been there before. -/
theorem get?_of_find_file (writes : Writes config.IsOutputDirectory (·.IsWithin config.outputRoot)
    before after) (linkless : before.Linkless) (isTree : before.IsTree) {path : Path}
    (separate : Separate (before.addressOf config.outputRoot) (before.addressOf path))
    {address : Address} {bytes : Bytes} (found : after.find path = .ok (address, .file bytes)) :
    before.get? (before.addressOf path) = some (.file bytes) := by
  have changes := writes.changes linkless
  have afterLinkless := changes.linkless linkless
  have stands := (writes.isTree isTree linkless).get?_of_find afterLinkless found
  rw [address_eq_of_find afterLinkless found, addressOf_congr changes.current_eq] at stands
  have elsewhere : ∀ other : Path, other.IsWithin config.outputRoot →
      before.addressOf other ≠ before.addressOf path := by
    intro other within same
    exact separate.1 (same ▸ addressOf_prefix_of_isWithin before within)
  rcases changes.get?_eq_or_made linkless elsewhere with same | ⟨_, new⟩
  · exact same.symm.trans stands
  · simp [new] at stands

/-- What the report of a build tells about is there, but for what an asset has taken the place of.
No directory may stand where a file of an asset is to go. -/
theorem isTruthful_of_buildOn (wellFormed : before.WellFormed) (linkless : before.Linkless)
    (isTree : before.IsTree) (separates : config.SeparatesOutput before)
    (built : config.buildOn before = (.ok (), progress))
    (unblocked : Unblocked before progress.disk (config.assetPairs config.assets)) :
    config.IsTruthful before progress := by
  cases buildOn_eq_ok_iff.mp built with
  | @stages sources outs catalogs assets paged listed last found pages catalogPages copies =>
      have areSources := (areSources_of_runOn_sources wellFormed found).2
      have course := course_of_stages (wellFormed.orderly linkless) areSources separates pages
        catalogPages copies
      have listedOrderly := course.listedOrderly
      have writes := course.pages.trans course.catalogs
      rcases hasCatalogPage_of_runOn_buildCatalogs course.pagedOrderly.linkless catalogPages with
        ⟨rfl, index, demos⟩
      rcases copied_of_runOn_copyAssets listedOrderly course.rooted separates.isProper copies with
        ⟨rfl, copied⟩
      have publishes : config.Publishes before listed last :=
        ⟨writes.changes linkless, listedOrderly, writes.isTree isTree linkless, copied⟩
      have unblocked := publishes.unblocked linkless separates unblocked
      have holds := fun out address bytes (found : listed.find out = .ok (address, .file bytes)) =>
        publishes.holdsUnder_of_find linkless separates unblocked found
      have holdsPage := holdsPage_of_runOn_buildCatalogs linkless areSources pages catalogPages
      have outputs := forall₂_of_runOn_mapM_buildPage pages
      constructor
      case sources =>
        rw [List.map_fst_zip (Nat.le_of_eq outputs.length_eq)]
        exact found
      case pages =>
        intro source out mem
        have isOut := (List.forall₂_iff_zip.mp outputs).2 mem
        rcases holdsPage source (List.of_mem_zip mem).1 with
          ⟨_, text, page, address, sameOut, read, isExample, pageFound⟩
        rw [isOut, Except.ok.injEq] at sameOut
        subst sameOut
        exact ⟨isOut, text, page, read, isExample, holds _ _ _ pageFound⟩
      case catalogs => rfl
      case index =>
        refine index.holds (fun _ _ => ?_) (holds _)
        exact get?_of_find_file course.pages linkless isTree separates.index
      case demos =>
        refine demos.holds (fun _ _ => ?_) (holds _)
        exact get?_of_find_file course.pages linkless isTree separates.demos
      case assets => rfl
      case copies =>
        intro earlier asset later order rest entry there
        exact publishes.holdsUnder_of_asset linkless separates unblocked order there
      case finds =>
        intro out mem
        rw [List.append_assoc, List.mem_append, List.mem_append] at mem
        rcases mem with mem | mem | mem
        · rcases List.mem_map.mp mem with ⟨⟨source, _⟩, pairMem, rfl⟩
          rcases holdsPage source (List.of_mem_zip pairMem).1 with
            ⟨_, _, _, address, isOut, _, _, pageFound⟩
          rw [(List.forall₂_iff_zip.mp outputs).2 pairMem, Except.ok.injEq] at isOut
          subst isOut
          exact publishes.exists_find pageFound
        · rcases index with ⟨_, _, _, _, _, _, indexFound⟩
          rcases demos with ⟨_, _, _, _, _, _, demosFound⟩
          rcases List.mem_pair.mp mem with rfl | rfl
          · exact publishes.exists_find indexFound
          · exact publishes.exists_find demosFound
        · rcases List.mem_map.mp mem with ⟨asset, assetMem, rfl⟩
          exact publishes.exists_find_target assetMem

/-- A site with an asset that has the name of the page of a catalog. -/
def overwriting : SiteConfig where
  inputRoot := { slashes := 1, names := ["src".toList] }
  outputRoot := { slashes := 1, names := ["html".toList] }
  assetDirectories := []
  assetFiles := [{ slashes := 1, names := ["own".toList, "index.html".toList] }]
  extension := ".bip".toList
  indexCatalog := "index.xml".toList
  demosCatalog := "demos.xml".toList
  siteName := Page.defaultSiteName

def overwritingDisk : Disk where
  entries :=
    [(["src".toList], .directory),
      (["src".toList, "index.xml".toList], .file (Utf8.encode "<root/>".toList)),
      (["src".toList, "demos.xml".toList], .file (Utf8.encode "<root/>".toList)),
      (["src".toList, "a".toList], .directory),
      (["src".toList, "a".toList, "b.bip".toList], .file (Utf8.encode "/**\n# B\n*/b();".toList)),
      (["own".toList], .directory),
      (["own".toList, "index.html".toList], .file (Utf8.encode "own".toList))]

/-- What the build of that site comes to. -/
def overwritingEnd : Progress :=
  (overwriting.buildOn overwritingDisk).2

theorem overwritingDisk_ok :
    overwritingDisk.WellFormed ∧ overwritingDisk.Linkless ∧ overwritingDisk.IsTree :=
  ⟨⟨by decide, by decide⟩, linkless_of_entries (by simp [overwritingDisk]),
    isTree_of_entries rfl (by decide)⟩

theorem separatesOutput_overwriting : overwriting.SeparatesOutput overwritingDisk where
  input := by decide
  index := by decide
  demos := by decide
  asset := by decide
  isProper := by decide
  ne_up := by decide

theorem buildOn_overwriting :
    overwriting.buildOn overwritingDisk = (.ok (), overwritingEnd) ∧
      overwritingEnd.report.catalogs = [overwriting.indexPage, overwriting.demosPage] ∧
      overwritingEnd.disk.get? ["html".toList, "index.html".toList] =
        some (.file (Utf8.encode "own".toList)) ∧
      overwritingEnd.disk.find overwriting.indexPage =
        .ok (["html".toList, "index.html".toList], .file (Utf8.encode "own".toList)) := by
  have found : (runOn overwriting.sources overwritingDisk).1 =
      .ok [{ slashes := 1, names := ["src".toList, "a".toList, "b.bip".toList] }] := by
    delta sources sourcesOf children Disk.list
    rw [sortedNames_eq_insertionSort]
    decide +kernel
  have discovered := (onlyLooks_sources overwriting).runOn_eq found
  have run : overwriting.buildOn overwritingDisk =
      runOn overwriting.build { disk := overwritingDisk } := rfl
  have outcome : (runOn overwriting.build { disk := overwritingDisk }).1 = .ok () ∧
      (runOn overwriting.build { disk := overwritingDisk }).2.report.catalogs =
        [overwriting.indexPage, overwriting.demosPage] ∧
      (runOn overwriting.build { disk := overwritingDisk }).2.disk.get?
        ["html".toList, "index.html".toList] = some (.file (Utf8.encode "own".toList)) ∧
      (runOn overwriting.build { disk := overwritingDisk }).2.disk.find overwriting.indexPage =
        .ok (["html".toList, "index.html".toList], .file (Utf8.encode "own".toList)) := by
    rw [build, runOn_bind, runOn_onDisk, discovered]
    decide +kernel
  rw [overwritingEnd, run]
  exact ⟨Prod.ext outcome.1 rfl, outcome.2⟩

/-- An asset takes the place of the page of a catalog, which the report goes on telling about. -/
theorem index_page_overwritten :
    overwritingDisk.WellFormed ∧ overwritingDisk.Linkless ∧ overwritingDisk.IsTree ∧
      overwriting.SeparatesOutput overwritingDisk ∧
      overwriting.buildOn overwritingDisk = (.ok (), overwritingEnd) ∧
      overwriting.indexPage ∈ overwritingEnd.report.catalogs ∧
      ∃ entries, runOn (loadCatalog overwriting.indexPath Catalog.exampleElement) overwritingDisk =
          (.ok entries, overwritingDisk) ∧
        ∀ address, overwritingEnd.disk.find overwriting.indexPage ≠
          .ok (address, .file (Utf8.encode (Page.index entries overwriting.siteName))) := by
  rcases overwritingDisk_ok with ⟨wellFormed, linkless, isTree⟩
  rcases buildOn_overwriting with ⟨built, catalogs, _, found⟩
  have loaded : (runOn (loadCatalog overwriting.indexPath Catalog.exampleElement)
      overwritingDisk).1 = .ok [] := by
    decide +kernel
  refine ⟨wellFormed, linkless, isTree, separatesOutput_overwriting, built, by simp [catalogs], [],
    (onlyLooks_loadCatalog _ _).runOn_eq loaded, ?_⟩
  intro address pageFound
  simp only [found, Except.ok.injEq, Prod.mk.injEq, Entry.file.injEq] at pageFound
  exact absurd pageFound.2 (by decide +kernel)

/-- What the report of that build tells about is there, but for that page. -/
theorem isTruthful_overwriting :
    Unblocked overwritingDisk overwritingEnd.disk (overwriting.assetPairs overwriting.assets) ∧
      overwriting.IsTruthful overwritingDisk overwritingEnd := by
  rcases overwritingDisk_ok with ⟨wellFormed, linkless, isTree⟩
  rcases buildOn_overwriting with ⟨built, _, stands, _⟩
  have unblocked : Unblocked overwritingDisk overwritingEnd.disk
      (overwriting.assetPairs overwriting.assets) := by
    intro item mem address bytes brings
    rcases List.mem_singleton.mp mem with rfl
    rcases brings with ⟨rest, rfl, there⟩
    have last := isTree.eq_nil_of_append (by decide) (there ▸ Option.some_ne_none _)
    have isPage : overwritingDisk.addressOf
        (overwriting.assetTarget { slashes := 1, names := ["own".toList, "index.html".toList] }) =
          ["html".toList, "index.html".toList] := by
      decide
    rw [last, List.append_nil, isPage, stands]
    simp
  exact ⟨unblocked, isTruthful_of_buildOn wellFormed linkless isTree separatesOutput_overwriting
    built unblocked⟩

end ScriptSite.SiteConfig
