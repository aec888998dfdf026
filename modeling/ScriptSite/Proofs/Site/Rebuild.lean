import Mathlib.Data.List.Infix
import ScriptSite.Proofs.Disk.Recopy
import ScriptSite.Proofs.Site.Rediscovery
import ScriptSite.Proofs.Site.Report

/-!
# Building again

A build that succeeds can be done again, with the same report, and it changes nothing
(`buildOn_again`). Each of its stages reads what the build does not write to, and writes what it has
written, so the second build retraces the first one. Two things can go wrong. The first build may
make a directory below the root of the input, on the way to the root of the output, with a path that
is too long to be looked at when the sources are found again. And the copy of an asset that is
write-protected is write-protected too, so the asset cannot be copied again. `rebuild_fails` has a
site for each.
-/

namespace ScriptSite

open Disk

variable {final first mid second : Disk} {top : Address} {source : Path} {page : Text}

theorem repeats_liftExcept {ε α : Type} (outcome : Except ε α) :
    Repeats top final (liftExcept outcome : DiskAction ε α) :=
  .of_agrees (fun disk => by rw [runOn_liftExcept]) fun _ _ _ _ _ _ => agrees_liftExcept _ _ _

theorem onlyLooks_readSource (source : Path) : OnlyLooks (readSource source) := by
  intro disk
  rcases agrees_readSource (rfl : disk.findReadable source = _) with ⟨outcome, run, _⟩
  rw [run]

/-- A source that nothing is written to is read again. -/
theorem repeats_readSource (outside : ¬top <+: final.addressOf source) :
    Repeats top final (readSource source) := by
  refine .of_agrees (onlyLooks_readSource source) fun first mid second text retraces run => ?_
  rcases runOn_bind_eq_ok_iff.mp run with ⟨bytes, _, read, _⟩
  rw [runOn_adapt_eq_ok_iff, runOn_readFile_eq_ok_iff] at read
  rcases read with ⟨⟨address, readable⟩, _⟩
  exact agrees_readSource ((retraces.findReadable_eq outside readable).trans readable.symm)

theorem repeats_writePage {out : Path} (below : Below top final out) (page : Text) :
    Repeats top final (writePage out page) :=
  ((repeats_ensureDirectories _).adapt _ |>.bind fun _ => repeats_writeFile below _).adapt _

namespace SiteConfig

variable {config : SiteConfig} {kind : Entry → Bool} {assets : List Path}
  {before paged listed last : Disk} {progress : Progress} {sources outs : List Path}

theorem repeats_buildPage {group name : Text} (isSource : config.IsSourcePath source group name)
    (outside : ¬top <+: final.addressOf source) (root : Below top final config.outputRoot) :
    Repeats top final (config.buildPage source) := by
  have below : Below top final ((config.outputRoot.child group).child (pageName name)) :=
    (root.of_isWithin (Path.isWithin_child isSource.group_ne_upName _)).of_isWithin
      (Path.isWithin_child (pageName_ne_upName name) _)
  refine ((repeats_readSource outside).bind fun _ => repeats_liftExcept _).bind fun page => ?_
  rw [isSource.outputPath_eq]
  exact (repeats_writePage below page).bind fun _ => .pure _

theorem agrees_loadCatalog {catalog : Path} (element : Text)
    (same : second.find catalog = first.find catalog)
    (readable : second.findReadable catalog = first.findReadable catalog) :
    Agrees (loadCatalog catalog element) first second := by
  have required : Agrees (requireFile .catalog catalog) first second := by
    refine (agrees_isFile same).bind fun holds => ?_
    cases holds <;> exact ⟨_, rfl, rfl⟩
  exact required.bind fun _ => ((agrees_readFile readable).adapt _).bind fun _ =>
    agrees_liftExcept _ _ _

theorem repeats_loadCatalog {catalog : Path} (outside : ¬top <+: final.addressOf catalog)
    (element : Text) : Repeats top final (loadCatalog catalog element) := by
  refine .of_agrees (onlyLooks_loadCatalog _ _) fun first mid second entries retraces run => ?_
  rcases (runOn_loadCatalog_eq_ok run).2 with ⟨address, _, readable, _⟩
  have found := find_of_findReadable readable
  exact agrees_loadCatalog element ((retraces.find_eq outside found).trans found.symm)
    ((retraces.findReadable_eq outside readable).trans readable.symm)

theorem repeats_buildCatalogs (index : ¬top <+: final.addressOf config.indexPath)
    (demos : ¬top <+: final.addressOf config.demosPath) (root : Below top final config.outputRoot) :
    Repeats top final config.buildCatalogs := by
  refine (repeats_loadCatalog index _).bind fun _ => ?_
  refine (repeats_loadCatalog demos _).bind fun _ => ?_
  have indexPage : Below top final config.indexPage :=
    root.of_isWithin (Path.isWithin_child (by decide) _)
  have demosPage : Below top final config.demosPage :=
    root.of_isWithin (Path.isWithin_child (by decide) _)
  refine (repeats_writePage indexPage _).bind fun _ => ?_
  refine (repeats_writePage demosPage _).bind fun _ => ?_
  exact .pure _

/-- Assets that have been copied can be copied again. -/
theorem CopiesAssets.again (copies : config.CopiesAssets kind assets first mid)
    (retraces : Retraces top final first second) (orderly : final.Orderly)
    (steady : Steady top final first) (comesTo : ComesTo top mid final)
    (into : CopiesInto top final (config.assetPairs assets))
    (allows : first.AllowsWriting (config.assetPairs assets)) :
    ∃ last, config.CopiesAssets kind assets second last ∧ Retraces top final mid last := by
  induction copies generalizing second with
  | nothing => exact ⟨second, .nothing, retraces⟩
  | @asset first mid after asset assets isKind copied rest ih =>
      have head : CopiesInto top final [(asset, config.assetTarget asset)] :=
        into.of_subset (by simp [assetPairs])
      have restInto : CopiesInto top final (config.assetPairs assets) :=
        into.of_subset (by simp [assetPairs])
      have headAllows : first.AllowsWriting [(asset, config.assetTarget asset)] :=
        allows.of_subset (by simp [assetPairs])
      have advances := copied.advances head headAllows
      have midOrderly := advances.orderly retraces.orderly
      have restAllows : mid.AllowsWriting (config.assetPairs assets) :=
        advances.allowsWriting retraces.orderly (allows.of_subset (by simp [assetPairs]))
      have restAdvances := (rest.copied midOrderly).advances restInto restAllows
      have midComesTo := ComesTo.of_advances restAdvances comesTo midOrderly
      rcases test_eq_true_iff.mp isKind with ⟨address, entry, found, holds⟩
      have secondFound := retraces.find_eq (head.outside _ (List.mem_singleton_self _)).1 found
      have isKind := test_eq_true_iff.mpr ⟨address, entry, secondFound, holds⟩
      rcases copied.again retraces orderly steady midComesTo head headAllows with
        ⟨there, again, midRetraces⟩
      rcases ih midRetraces (steady.of_advances advances retraces.orderly midComesTo) comesTo
        restInto restAllows with ⟨last, restAgain, lastRetraces⟩
      rw [← retraces.comesTo.reach_eq, ← retraces.reach_eq] at again
      exact ⟨last, .asset isKind again restAgain, lastRetraces⟩

theorem runOn_copyAssets_again (retraces : Retraces top last listed second) (orderly : last.Orderly)
    (rooted : config.HasOutputRoot listed) (proper : ∀ asset ∈ config.assets, asset.IsProper)
    (steady : Steady top last listed) (inside : top ≠ [])
    (into : CopiesInto top last (config.assetPairs config.assets))
    (allows : listed.AllowsWriting (config.assetPairs config.assets)) {outs : List Path}
    (run : runOn config.copyAssets listed = (.ok outs, last)) :
    runOn config.copyAssets second = (.ok outs, last) := by
  rcases (runOn_copyAssets_eq_ok_iff retraces.orderly rooted proper).mp run with
    ⟨rfl, mid, directories, files⟩
  have directoriesInto : CopiesInto top last (config.assetPairs config.assetDirectories) :=
    into.of_subset (by simp [assetPairs, SiteConfig.assets])
  have filesInto : CopiesInto top last (config.assetPairs config.assetFiles) :=
    into.of_subset (by simp [assetPairs, SiteConfig.assets])
  have directoriesAllow : listed.AllowsWriting (config.assetPairs config.assetDirectories) :=
    allows.of_subset (by simp [assetPairs, SiteConfig.assets])
  have advances := (directories.copied retraces.orderly).advances directoriesInto directoriesAllow
  have midOrderly := advances.orderly retraces.orderly
  have filesAllow : mid.AllowsWriting (config.assetPairs config.assetFiles) :=
    advances.allowsWriting retraces.orderly
      (allows.of_subset (by simp [assetPairs, SiteConfig.assets]))
  have filesAdvance := (files.copied midOrderly).advances filesInto filesAllow
  have comesTo := ComesTo.of_advances filesAdvance (.refl top last) midOrderly
  rcases directories.again retraces orderly steady comesTo directoriesInto directoriesAllow with
    ⟨there, directoriesAgain, midRetraces⟩
  rcases files.again midRetraces orderly (steady.of_advances advances retraces.orderly comesTo)
    (.refl top last) filesInto filesAllow with ⟨lastAgain, filesAgain, lastRetraces⟩
  rw [lastRetraces.eq_of_end inside] at filesAgain
  have secondRooted : config.HasOutputRoot second := by
    rcases rooted with ⟨address, found⟩
    exact ⟨address, retraces.find_directory found⟩
  exact (runOn_copyAssets_eq_ok_iff (retraces.second_orderly orderly) secondRooted proper).mpr
    ⟨rfl, there, directoriesAgain, filesAgain⟩

/-- Whether no asset, and nothing below one, is write-protected. -/
def HasWritableAssets (config : SiteConfig) (disk : Disk) : Prop :=
  ∀ asset ∈ config.assets, ∀ rest, disk.denies .writing (disk.addressOf asset ++ rest) = false

theorem HasWritableAssets.allowsWriting (writable : config.HasWritableAssets before) :
    before.AllowsWriting (config.assetPairs config.assets) := by
  intro item mem rest
  rcases List.mem_map.mp mem with ⟨asset, assetMem, rfl⟩
  exact writable asset assetMem rest

namespace Course

variable (course : config.Course before paged listed last)
  (separates : config.SeparatesOutput before)

include course separates

theorem changes : Changes config.IsOutputDirectory (·.IsWithin config.outputRoot) before last :=
  (course.writes separates).changes course.orderly.linkless

theorem addressOf_eq (path : Path) : last.addressOf path = before.addressOf path :=
  addressOf_congr (course.changes separates).current_eq path

/-- What is written below the root of the output is written below where that is in the end. -/
theorem comesTo {made : Path → Prop} {later : Disk}
    (writes : Writes made (·.IsWithin config.outputRoot) later last) (loosens : Loosens later last)
    (orderly : later.Orderly) : ComesTo (before.addressOf config.outputRoot) later last := by
  refine ⟨(writes.changes orderly.linkless).weaken (fun _ _ => trivial) fun path within => ?_,
    loosens⟩
  rw [Below, ← course.addressOf_eq separates]
  exact addressOf_prefix_of_isWithin last within

/-- Outside of the root of the output nothing is changed any more when the assets are copied. -/
theorem steady : Steady (before.addressOf config.outputRoot) last listed := by
  intro address outside
  have copies := course.copies separates
  refine (copies.get?_eq course.listedOrderly.linkless fun path isWritten same => outside ?_).symm
  have within : path.IsWithin config.outputRoot := isWritten.elim id id
  rw [← same, ← addressOf_congr (copies.changes course.listedOrderly.linkless).current_eq,
    ← course.addressOf_eq separates]
  exact addressOf_prefix_of_isWithin last within

theorem sparesInput (isTree : before.IsTree) (loosens : Loosens before last) :
    config.SparesInput before last where
  orderly := course.orderly
  isTree := isTree
  afterOrderly := course.lastOrderly
  keeps := (course.changes separates).keeps
  loosens := loosens
  gains := by
    intro path within
    refine (course.changes separates).get?_eq_or_made course.orderly.linkless ?_
    intro other otherWithin
    exact (separates.input.below (addressOf_prefix_of_isWithin before otherWithin)
      (addressOf_prefix_of_isWithin before within)).ne

/-- What has been made below the root of the input has been made on the way to the root of the
output.
-/
theorem exists_above {path : Path} (obstructs : config.Obstructs before last path) :
    ∃ above, config.outputRoot.LeadsThrough above ∧
      before.addressOf path = before.addressOf above := by
  have elsewhere : ∀ other : Path, other.IsWithin config.outputRoot →
      before.addressOf path ≠ before.addressOf other := by
    intro other within
    exact (separates.input.below (addressOf_prefix_of_isWithin before within)
      (addressOf_prefix_of_isWithin before obstructs.isWithin)).symm.ne
  have changed : last.get? (before.addressOf path) ≠ before.get? (before.addressOf path) := by
    rw [obstructs.made, obstructs.absent]
    simp
  rcases (course.changes separates).exists_of_get?_ne course.orderly.linkless changed with
    ⟨above, leads | isOutput, same, _⟩ | ⟨other, within, same⟩
  · exact ⟨above, leads, same⟩
  · exact absurd same (elsewhere above (isOutput.isWithin separates.ne_up))
  · exact absurd same (elsewhere other within)

theorem outside {path : Path}
    (separate : Separate (before.addressOf config.outputRoot) (before.addressOf path)) :
    ¬before.addressOf config.outputRoot <+: last.addressOf path := by
  rw [course.addressOf_eq separates]
  exact separate.1

theorem below_outputRoot : Below (before.addressOf config.outputRoot) last config.outputRoot := by
  rw [Below, course.addressOf_eq separates]

theorem repeats_pages (areSources : config.AreSources before sources) :
    Repeats (before.addressOf config.outputRoot) last (sources.mapM config.buildPage) := by
  refine .mapM fun source mem => ?_
  rcases areSources.isSource source mem with ⟨group, name, isSource⟩
  have within : source.IsWithin config.inputRoot := by
    rw [isSource.eq_child]
    exact (Path.isWithin_child isSource.ne_upName _).trans
      (Path.isWithin_child isSource.group_ne_upName _)
  have separate := separates.input.below (List.prefix_refl _)
    (addressOf_prefix_of_isWithin before within)
  exact repeats_buildPage isSource (course.outside separates separate)
    (course.below_outputRoot separates)

theorem repeats_catalogs :
    Repeats (before.addressOf config.outputRoot) last config.buildCatalogs :=
  repeats_buildCatalogs (course.outside separates separates.index)
    (course.outside separates separates.demos) (course.below_outputRoot separates)

/-- The pages deny nothing, so no asset is write-protected when the assets are copied either. -/
theorem loosens_of_stages (areSources : config.AreSources before sources)
    (writable : config.HasWritableAssets before)
    (pages : runOn (sources.mapM config.buildPage) before = (.ok outs, paged))
    {catalogs : List Path}
    (catalogPages : runOn config.buildCatalogs paged = (.ok catalogs, listed)) :
    listed.AllowsWriting (config.assetPairs config.assets) ∧ Loosens listed last ∧
      Loosens before last := by
  rcases (course.repeats_pages separates areSources).advances _ _ _ pages course.orderly with
    ⟨pagesWrite, pagesLoosen⟩
  rcases (course.repeats_catalogs separates).advances _ _ _ catalogPages course.pagedOrderly with
    ⟨catalogsWrite, catalogsLoosen⟩
  have loosens := trans_of Loosens pagesLoosen catalogsLoosen
  have changes := (pagesWrite.trans catalogsWrite).changes course.orderly.linkless
  have allows := writable.allowsWriting.mono loosens changes.current_eq
  have copiesLoosen := course.copied.loosens course.listedOrderly allows
  exact ⟨allows, copiesLoosen, trans_of Loosens loosens copiesLoosen⟩

/-- When the sources are the same, all that has been written is written again. -/
theorem again (areSources : config.AreSources before sources)
    (writable : config.HasWritableAssets before)
    (pages : runOn (sources.mapM config.buildPage) before = (.ok outs, paged))
    {catalogs : List Path}
    (catalogPages : runOn config.buildCatalogs paged = (.ok catalogs, listed))
    (copies : runOn config.copyAssets listed = (.ok assets, last)) :
    ∃ pagedAgain listedAgain, runOn (sources.mapM config.buildPage) last = (.ok outs, pagedAgain) ∧
      runOn config.buildCatalogs pagedAgain = (.ok catalogs, listedAgain) ∧
      runOn config.copyAssets listedAgain = (.ok assets, last) := by
  rcases course.loosens_of_stages separates areSources writable pages catalogPages with
    ⟨allows, copiesLoosen, _⟩
  have repeatsCatalogs := course.repeats_catalogs separates
  have repeatsPages := course.repeats_pages separates areSources
  have listedComesTo := course.comesTo separates (course.copies separates) copiesLoosen
    course.listedOrderly
  have pagedComesTo := repeatsCatalogs.comesTo course.pagedOrderly catalogPages listedComesTo
  have comesTo := repeatsPages.comesTo course.orderly pages pagedComesTo
  have startRetraces := retraces_start _ course.orderly comesTo
  rcases repeatsPages.again _ _ _ _ startRetraces pages pagedComesTo with
    ⟨pagedAgain, pagesAgain, pagedRetraces⟩
  rcases repeatsCatalogs.again _ _ _ _ pagedRetraces catalogPages listedComesTo with
    ⟨listedAgain, catalogsAgain, listedRetraces⟩
  have inside : before.addressOf config.outputRoot ≠ [] := by
    intro none
    exact separates.input.1 (none ▸ List.nil_prefix)
  have into := separates.copiesInto (course.changes separates).current_eq
  have copiesAgain := runOn_copyAssets_again listedRetraces course.lastOrderly course.rooted
    separates.isProper (course.steady separates) inside into allows copies
  exact ⟨pagedAgain, listedAgain, pagesAgain, catalogsAgain, copiesAgain⟩

end Course

/-- A build that succeeds, of a site where no asset is write-protected, can be done again: it gives
the same report and leaves all as it is, unless the first build has made a directory below the root
of the input, on the way to the root of the output, that has too long a path to be looked at. Then
the second build fails, and leaves all as it is. -/
theorem buildOn_again (wellFormed : before.WellFormed) (linkless : before.Linkless)
    (isTree : before.IsTree) (separates : config.SeparatesOutput before)
    (writable : config.HasWritableAssets before)
    (built : config.buildOn before = (.ok (), progress)) :
    config.buildOn progress.disk = (.ok (), progress) ∨
      config.buildOn progress.disk =
          (.error (.refused .nameTooLong), { disk := progress.disk }) ∧
        ∃ path above, config.Obstructs before progress.disk path ∧
          config.outputRoot.LeadsThrough above ∧
          before.addressOf path = before.addressOf above := by
  cases buildOn_eq_ok_iff.mp built with
  | @stages sources outs catalogs assets paged listed last found pages catalogPages copies =>
      have areSources := (areSources_of_runOn_sources wellFormed found).2
      have course := course_of_stages (wellFormed.orderly linkless) areSources separates pages
        catalogPages copies
      have loosens := (course.loosens_of_stages separates areSources writable pages
        catalogPages).2.2
      rcases (course.sparesInput separates isTree loosens).stillGives_sources found with
        foundAgain | ⟨failure, ⟨rfl, path, obstructs⟩, failed⟩
      · rcases course.again separates areSources writable pages catalogPages copies with
          ⟨pagedAgain, listedAgain, pagesAgain, catalogsAgain, copiesAgain⟩
        have again := Completes.stages foundAgain pagesAgain catalogsAgain copiesAgain
        exact Or.inl (buildOn_eq_ok_iff.mpr again)
      · rcases course.exists_above separates obstructs with ⟨above, leads, same⟩
        refine Or.inr ⟨?_, path, above, obstructs, leads, same⟩
        have searched : runOn (BuildAction.onDisk config.sources) { disk := last } =
            (.error (.refused .nameTooLong), { disk := last }) := by
          rw [runOn_onDisk, failed]
        exact runOn_bind_eq_error_iff.mpr (Or.inl searched)

/-- The site whose index page is taken by an asset is the same after it has been built again. -/
theorem buildOn_again_overwriting :
    overwriting.buildOn overwritingDisk = (.ok (), overwritingEnd) ∧
      overwriting.buildOn overwritingEnd.disk = (.ok (), overwritingEnd) := by
  rcases overwritingDisk_ok with ⟨wellFormed, linkless, isTree⟩
  have built := buildOn_overwriting.1
  refine ⟨built, ?_⟩
  rcases buildOn_again wellFormed linkless isTree separatesOutput_overwriting
      (fun _ _ _ => rfl) built with
    again | ⟨_, path, above, obstructs, leads, same⟩
  · exact again
  · have below := addressOf_prefix_of_isWithin overwritingDisk obstructs.isWithin
    rcases above with ⟨slashes, names⟩
    rcases leads with ⟨rfl, isPrefix⟩
    rw [same] at below
    have inits : overwriting.outputRoot.names.inits = [[], ["html".toList]] := rfl
    have isInit := (List.mem_inits _ _).mpr isPrefix
    simp only [inits, List.mem_cons, List.not_mem_nil, or_false] at isInit
    rcases isInit with rfl | rfl <;> exact absurd below (by decide)

/-- Whether a site on a disk can be built once, but the build of what it leaves fails. -/
structure FailsAgain (config : SiteConfig) (before : Disk) (failure : Failure) : Prop where
  wellFormed : before.WellFormed
  linkless : before.Linkless
  isTree : before.IsTree
  separates : config.SeparatesOutput before
  again : ∃ progress later, config.buildOn before = (.ok (), progress) ∧
    config.buildOn progress.disk = (.error failure, later)

/-- The longest name that there can be. -/
def longName : Text :=
  List.replicate longestName 'n'

/-- A site with a long way to the root of the input. The root of the output is given by a way
through a directory in there, which is not there yet. -/
def winding : SiteConfig where
  inputRoot :=
    { slashes := 1
      names := (List.replicate 770 ["s".toList, "..".toList]).flatten ++ ["s".toList] }
  outputRoot :=
    { slashes := 1, names := ["s".toList, longName, "..".toList, "..".toList, "html".toList] }
  assetDirectories := []
  assetFiles := []
  extension := ".bip".toList
  indexCatalog := "/index.xml".toList
  demosCatalog := "/demos.xml".toList
  siteName := Page.defaultSiteName

def windingDisk : Disk where
  entries :=
    [(["s".toList], .directory),
      (["index.xml".toList], .file (Utf8.encode "<root/>".toList)),
      (["demos.xml".toList], .file (Utf8.encode "<root/>".toList))]

/-- The disk of that site when it has been built. -/
def windingEnd : Disk :=
  (runOn winding.buildCatalogs windingDisk).2

theorem separatesOutput_winding : winding.SeparatesOutput windingDisk where
  input := by decide +kernel
  index := by decide +kernel
  demos := by decide +kernel
  asset := by decide
  isProper := by decide
  ne_up := by decide

theorem buildOn_winding :
    ∃ report, winding.buildOn windingDisk = (.ok (), { disk := windingEnd, report }) := by
  have found : windingDisk.findReadable winding.inputRoot = .ok (["s".toList], .directory) := by
    decide +kernel
  have empty : windingDisk.names ["s".toList] = [] := by decide
  have outcome : (runOn winding.buildCatalogs windingDisk).1 =
      .ok [winding.indexPage, winding.demosPage] := by
    decide +kernel
  have catalogs : runOn winding.buildCatalogs windingDisk =
      (.ok [winding.indexPage, winding.demosPage], windingEnd) := by
    rw [windingEnd, ← outcome]
  have sources : runOn winding.sources windingDisk = (.ok [], windingDisk) := by
    rw [runOn_sources_of_findReadable found rfl, sortedNames, empty, List.mergeSort_nil]
    rfl
  have pages : ∀ disk, runOn (([] : List Path).mapM winding.buildPage) disk = (.ok [], disk) :=
    fun _ => rfl
  have copies : ∀ disk, runOn winding.copyAssets disk = (.ok [], disk) := fun _ => rfl
  exact ⟨_, buildOn_eq_ok_iff.mpr (.stages sources (pages _) catalogs (copies _))⟩

theorem failsAgain_winding : winding.FailsAgain windingDisk (.refused .nameTooLong) := by
  rcases (by decide +kernel :
    windingEnd.findReadable winding.inputRoot = .ok (["s".toList], .directory) ∧
      windingEnd.names ["s".toList] = [longName] ∧
      windingEnd.find (winding.inputRoot.child longName) = .error (.refused .nameTooLong)) with
    ⟨found, names, tooLong⟩
  have refused : runOn (winding.sourcesOf (winding.inputRoot.child longName)) windingEnd =
      (.error (.refused .nameTooLong), windingEnd) := by
    rw [sourcesOf, runOn_bind, runOn_isDirectory, Disk.isDirectory, Disk.test, tooLong]
    rfl
  have searched : runOn winding.sources windingEnd =
      (.error (.refused .nameTooLong), windingEnd) := by
    rw [runOn_sources_of_findReadable found rfl, sortedNames, names, List.mergeSort_singleton,
      List.map_cons, List.map_nil, List.mapM_cons, runOn_bind, runOn_bind, refused]
  rcases buildOn_winding with ⟨report, built⟩
  refine ⟨⟨by decide, by decide⟩, linkless_of_entries (by simp [windingDisk]),
    isTree_of_entries rfl (by decide), separatesOutput_winding, _, { disk := windingEnd }, built,
    ?_⟩
  refine runOn_bind_eq_error_iff.mpr (Or.inl ?_)
  rw [runOn_onDisk, searched]

/-- A site with a file for an asset. -/
def guarded : SiteConfig :=
  { winding with
    inputRoot := { slashes := 1, names := ["s".toList] }
    outputRoot := { slashes := 1, names := ["html".toList] }
    assetFiles := [{ slashes := 1, names := ["a.css".toList] }] }

/-- A disk of that site where the asset is write-protected. -/
def guardedDisk : Disk where
  entries := windingDisk.entries ++ [(["a.css".toList], .file [])]
  denied := [(["a.css".toList], .writing)]

/-- What the second build of that site fails with. -/
def guardedFailure : Failure :=
  .reported (.outputFailed (guarded.outputRoot.child "a.css".toList) "Permission denied".toList)

/-- The disk of that site with the pages of the catalogs. -/
def guardedListed : Disk :=
  (runOn guarded.buildCatalogs guardedDisk).2

/-- The disk of that site when it has been built. -/
def guardedEnd : Disk :=
  (runOn guarded.copyAssets guardedListed).2

theorem runOn_sources_guarded {disk : Disk}
    (found : disk.findReadable guarded.inputRoot = .ok (["s".toList], .directory))
    (empty : disk.names ["s".toList] = []) : runOn guarded.sources disk = (.ok [], disk) := by
  rw [runOn_sources_of_findReadable found rfl, sortedNames, empty, List.mergeSort_nil]
  rfl

theorem buildOn_guarded :
    ∃ report, guarded.buildOn guardedDisk = (.ok (), { disk := guardedEnd, report }) := by
  have catalogs : (runOn guarded.buildCatalogs guardedDisk).1 =
      .ok [guarded.indexPage, guarded.demosPage] := by
    decide +kernel
  have copies : (runOn guarded.copyAssets guardedListed).1 =
      .ok (guarded.assets.map guarded.assetTarget) := by
    decide +kernel
  have sources : runOn guarded.sources guardedDisk = (.ok [], guardedDisk) :=
    runOn_sources_guarded (by decide +kernel) (by decide +kernel)
  exact ⟨_, buildOn_eq_ok_iff.mpr
    (.stages sources rfl (Prod.ext catalogs rfl) (Prod.ext copies rfl))⟩

theorem failsAgain_guarded : guarded.FailsAgain guardedDisk guardedFailure := by
  have sources : runOn guarded.sources guardedEnd = (.ok [], guardedEnd) :=
    runOn_sources_guarded (by decide +kernel) (by decide +kernel)
  have failed : (guarded.buildOn guardedEnd).1 = .error guardedFailure := by
    change (runOn guarded.build { disk := guardedEnd }).1 = _
    rw [build, runOn_bind, runOn_onDisk, sources]
    decide +kernel
  rcases buildOn_guarded with ⟨report, built⟩
  exact
    { wellFormed := ⟨by decide, by decide⟩
      linkless := linkless_of_entries (by simp [guardedDisk, windingDisk])
      isTree := isTree_of_entries rfl (by decide)
      separates := ⟨by decide, by decide, by decide, by decide, by decide, by decide⟩
      again := ⟨_, _, built, Prod.ext failed rfl⟩ }

/-- Each of these sites can be built once, but not again: the first one for what the first build has
made below the root of the input, though no asset is write-protected, and the second one for the
copy of the asset, which is write-protected too. -/
theorem rebuild_fails :
    winding.FailsAgain windingDisk (.refused .nameTooLong) ∧
      winding.HasWritableAssets windingDisk ∧
      guarded.FailsAgain guardedDisk (.reported (.outputFailed
        (guarded.outputRoot.child "a.css".toList) "Permission denied".toList)) :=
  ⟨failsAgain_winding, fun _ _ _ => rfl, failsAgain_guarded⟩

end SiteConfig

end ScriptSite
