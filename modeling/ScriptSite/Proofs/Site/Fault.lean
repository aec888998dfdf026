import ScriptSite.Proofs.Page.Example
import ScriptSite.Proofs.Site.InputError
import ScriptSite.Site.Settings

/-!
# What is wrong with an input

A source has no page if it cannot be read, is not written in UTF-8 or has no title. A catalog gives
no entries if it is missing, cannot be read or is malformed. A configuration cannot be loaded if its
file is missing though it is asked for, cannot be read or decoded, is not written in YAML or has
settings that are not valid. Each fault stands with the failure that it leads to.

A fault of a source is there when its turn comes, if it is there in the beginning, because the pages
of other sources leave it alone (`FaultySource.of_builds`). Then the build stops there, with the
failure of that fault (`buildOn_of_faultySource`).
-/

namespace ScriptSite

open Disk

variable {disk : Disk} {path source : Path} {error : DiskError} {failure : Failure}

/-- Why a file that is there cannot be read. -/
inductive Disk.RefusesReading (disk : Disk) (path : Path) : DiskError → Prop
  | denied (isFile : disk.isFile path = .ok true)
      (denied : disk.findReadable path = .error (.refused .permissionDenied)) :
      disk.RefusesReading path .permissionDenied
  | broken {address : Address} (found : disk.findReadable path = .ok (address, .unreadable)) :
      disk.RefusesReading path .inputOutput

/-- Why a source has no page. -/
inductive FaultySource (disk : Disk) (source : Path) : BuildError → Prop
  | unreadable {error : DiskError} (refused : disk.RefusesReading source error) :
      FaultySource disk source (.unreadable source error)
  | notUtf8 {address : Address} {bytes : Bytes} {fault : Utf8.Fault}
      (found : disk.findReadable source = .ok (address, .file bytes))
      (notUtf8 : Utf8.decode bytes = .error fault) :
      FaultySource disk source (.notUtf8 source fault)
  | untitled {address : Address} {bytes : Bytes} {text : Text}
      (found : disk.findReadable source = .ok (address, .file bytes))
      (decoded : Utf8.decode bytes = .ok text)
      (untitled : Source.title? (Text.normalizeNewlines text) = none) :
      FaultySource disk source (.untitled source.toText)

/-- Why the elements of a catalog are not there. -/
inductive FaultyCatalog (disk : Disk) (path : Path) (element : Text) : Failure → Prop
  | missing (missing : disk.isFile path = .ok false) :
      FaultyCatalog disk path element (.reported (.missing .catalog path))
  | unreadable {error : DiskError} (refused : disk.RefusesReading path error) :
      FaultyCatalog disk path element (.reported (.unreadable path error))
  | malformed {address : Address} {bytes : Bytes} {fault : CatalogFault}
      (found : disk.findReadable path = .ok (address, .file bytes))
      (malformed : Catalog.readBytes element bytes = .error fault) :
      FaultyCatalog disk path element (Failure.ofCatalog path.toText fault)

/-- The catalogs of a site, and the elements that are read from each of them. -/
inductive SiteConfig.IsCatalog (config : SiteConfig) : (path : Path) → (element : Text) → Prop
  | index : config.IsCatalog config.indexPath Catalog.exampleElement
  | demos : config.IsCatalog config.demosPath Catalog.demoElement

namespace Disk

theorem isFile_of_findReadable {address : Address} {entry : Entry}
    (found : disk.findReadable path = .ok (address, entry)) (isFile : isFileEntry entry = true) :
    disk.isFile path = .ok true :=
  test_eq_true_iff.mpr ⟨address, entry, find_of_findReadable found, isFile⟩

namespace RefusesReading

theorem isFile (refuses : disk.RefusesReading path error) : disk.isFile path = .ok true := by
  cases refuses with
  | denied isFile => exact isFile
  | broken found => exact isFile_of_findReadable found rfl

theorem congr {other : Disk} (refuses : disk.RefusesReading path error)
    (sameFind : other.find path = disk.find path)
    (sameReadable : other.findReadable path = disk.findReadable path) :
    other.RefusesReading path error := by
  cases refuses with
  | denied isFile denied =>
      refine .denied ?_ (sameReadable.trans denied)
      rw [← isFile, Disk.isFile, Disk.isFile, Disk.test, Disk.test, sameFind]
  | broken found => exact .broken (sameReadable.trans found)

end RefusesReading

theorem runOn_readFile_of_findReadable {address : Address} {bytes : Bytes}
    (found : disk.findReadable path = .ok (address, .file bytes)) :
    runOn (Disk.readFile path) disk = (.ok bytes, disk) :=
  runOn_readFile_eq_ok_iff.mpr ⟨⟨address, found⟩, rfl⟩

end Disk

/-- On a disk without links the pages of other sources leave a fault as it is. -/
theorem FaultySource.of_builds {config : SiteConfig} {before mid : Disk} {done rest : List Path}
    {error : BuildError} (faulty : FaultySource before source error) (linkless : before.Linkless)
    (areSources : config.AreSources before (done ++ source :: rest))
    (builds : config.Builds before done mid) : FaultySource mid source error := by
  have mem : source ∈ done ++ source :: rest := by
    simp
  have notDone : source ∉ done := fun isDone =>
    List.disjoint_of_nodup_append areSources.nodup isDone List.mem_cons_self
  have changes := (builds.holdsPage linkless areSources.of_append).1
  rcases areSources.find_eq linkless (List.subset_append_left done _) changes mem notDone with
    ⟨sameFind, sameReadable⟩
  cases faulty with
  | unreadable refused => exact .unreadable (refused.congr sameFind sameReadable)
  | notUtf8 found notUtf8 => exact .notUtf8 (sameReadable.trans found) notUtf8
  | untitled found decoded untitled => exact .untitled (sameReadable.trans found) decoded untitled

/-- On a disk without links pages of sources leave a fault of a catalog as it is, if none of them
takes its place. -/
theorem FaultyCatalog.of_builds {config : SiteConfig} {before mid : Disk} {sources : List Path}
    {element : Text} (faulty : FaultyCatalog before path element failure)
    (isFile : before.isFile path = .ok true) (linkless : before.Linkless)
    (areSources : config.AreSources before sources) (builds : config.Builds before sources mid)
    (apart : ∀ out, config.IsPageOf sources out → path.Apart out) :
    FaultyCatalog mid path element failure := by
  rcases test_eq_true_iff.mp isFile with ⟨address, entry, found, isEntry⟩
  have notDirectory : entry ≠ .directory := by
    rintro rfl
    simp [isFileEntry] at isEntry
  have changes := (builds.holdsPage linkless areSources).1
  have sameFind := (changes.find_eq_ok linkless apart found).trans found.symm
  have sameReadable := changes.findReadable_eq linkless apart found notDirectory
  cases faulty with
  | missing missing => simp [isFile] at missing
  | unreadable refused => exact .unreadable (refused.congr sameFind sameReadable)
  | malformed found malformed => exact .malformed (sameReadable.trans found) malformed

namespace SiteConfig

variable {config : SiteConfig} {root : Path} {path? : Option Path}

theorem runOn_load_of_isFile (root : Path) (isPath : path?.getD (root.child fileName) = path)
    (isFile : disk.isFile path = .ok true) :
    runOn (load root path?) disk = runOn (readFile root path) disk := by
  rw [load, runOn_bind, runOn_get]
  simp only [isPath, isFile]

theorem runOn_readFile_of_findReadable (root : Path) {address : Address} {bytes : Bytes}
    (found : disk.findReadable path = .ok (address, .file bytes)) :
    runOn (readFile root path) disk = (Settings.ofBytes root path bytes, disk) := by
  rw [readFile, runOn_bind, runOn_adapt, Disk.runOn_readFile_of_findReadable found]
  simp only [Except.mapError, runOn_liftExcept]

end SiteConfig

end ScriptSite
