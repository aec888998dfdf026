import ScriptSite.Page.Catalog
import ScriptSite.Page.Example
import ScriptSite.Site.Publish

/-!
# Building a site

A build makes a page of every source, then the pages of both catalogs, and then copies the assets.
It stops at the first failure, and the report tells what has been done until then.
-/

namespace ScriptSite

namespace SiteConfig

def examplePage (config : SiteConfig) (source : Path) : DiskAction Failure Text := do
  let text ← readSource source
  liftExcept ((Page.example? text config.siteName).mapError (Failure.ofPage source.toText))

/-- Where the page of a source is written; it is a failure if there is no such place. -/
def outputPath (config : SiteConfig) (source : Path) : Except Failure Path :=
  match config.outputPath? source with
  | some out => .ok out
  | none => .error (.noOutputPath source)

def buildPage (config : SiteConfig) (source : Path) : DiskAction Failure Path := do
  let page ← config.examplePage source
  let out ← liftExcept (config.outputPath source)
  writePage out page
  return out

/-- Makes the pages of the catalogs, and gives their paths. Both catalogs are read before a page is
written. -/
def buildCatalogs (config : SiteConfig) : DiskAction Failure (List Path) := do
  let examples ← loadCatalog config.indexPath Catalog.exampleElement
  let demos ← loadCatalog config.demosPath Catalog.demoElement
  writePage config.indexPage (Page.index examples config.siteName)
  writePage config.demosPage (Page.demos demos config.siteName)
  return [config.indexPage, config.demosPage]

end SiteConfig

/-- What has been built: the pages with their sources, the pages of the catalogs, and the copies of
the assets. -/
structure BuildReport where
  pages : List (Path × Path) := []
  catalogs : List Path := []
  assets : List Path := []
  deriving DecidableEq, Repr

namespace BuildReport

/-- What a line begins with that tells of something built. -/
def bullet : Text :=
  "  ✓ ".toList

/-- What stands before the path of something built. -/
def arrow : Text :=
  " → ".toList

/-- The lines that tell what has been built. -/
def lines (report : BuildReport) : List Text :=
  (report.pages.map fun (source, out) => bullet ++ source.toText ++ arrow ++ out.toText) ++
    (report.catalogs.map fun path => bullet ++ "Catalog".toList ++ arrow ++ path.toText) ++
    report.assets.map fun path => bullet ++ "Asset".toList ++ arrow ++ path.toText

/-- The text that tells what has been built. -/
def toText (report : BuildReport) : Text :=
  report.lines.flatMap (· ++ ['\n'])

end BuildReport

/-- How far a build has come: the disk and the report. -/
structure Progress where
  disk : Disk
  report : BuildReport := {}

/-- A part of a build. -/
abbrev BuildAction (α : Type) := ExceptT Failure (StateM Progress) α

namespace BuildAction

/-- An operation on the disk as a part of a build. -/
def onDisk {α : Type} (action : DiskAction Failure α) : BuildAction α :=
  ExceptT.mk fun progress =>
    let (result, disk) := action.run.run progress.disk
    (result, { progress with disk })

/-- Notes something in the report. -/
def note (change : BuildReport → BuildReport) : BuildAction Unit :=
  modify fun progress => { progress with report := change progress.report }

end BuildAction

namespace SiteConfig

/-- Makes the page of a source, and notes it in the report. -/
def buildSource (config : SiteConfig) (source : Path) : BuildAction Unit := do
  let out ← BuildAction.onDisk (config.buildPage source)
  BuildAction.note fun report => { report with pages := report.pages ++ [(source, out)] }

def build (config : SiteConfig) : BuildAction Unit := do
  let sources ← BuildAction.onDisk config.sources
  sources.forM config.buildSource
  let catalogs ← BuildAction.onDisk config.buildCatalogs
  BuildAction.note fun report => { report with catalogs }
  let assets ← BuildAction.onDisk config.copyAssets
  BuildAction.note fun report => { report with assets }

/-- Builds a site on a disk: gives the outcome, what has been done, and the disk from then on. -/
def buildOn (config : SiteConfig) (disk : Disk) : Except Failure Unit × Progress :=
  config.build.run.run { disk }

end SiteConfig

end ScriptSite
