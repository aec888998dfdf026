import ScriptSite.Disk.Path
import ScriptSite.Page.Frame

/-!
# Configurations

Where a site is read from and written to, and what belongs to it.
-/

namespace ScriptSite

/-- A configuration. Only the given groups are built, if any are given. -/
structure SiteConfig where
  inputRoot : Path
  outputRoot : Path
  assetDirectories : List Path
  assetFiles : List Path
  extension : Text
  indexCatalog : Text
  demosCatalog : Text
  siteName : Text
  groups : Option (List Text) := none
  deriving DecidableEq, Repr

namespace SiteConfig

/-- Where the catalog of the examples is. -/
def indexPath (config : SiteConfig) : Path :=
  config.inputRoot.join (.ofText config.indexCatalog)

def demosPath (config : SiteConfig) : Path :=
  config.inputRoot.join (.ofText config.demosCatalog)

def indexPage (config : SiteConfig) : Path :=
  config.outputRoot.child "index.html".toList

def demosPage (config : SiteConfig) : Path :=
  config.outputRoot.child "demos.html".toList

/-- Whether a group is to be built. -/
def includes (config : SiteConfig) (group : Text) : Bool :=
  config.groups.all fun groups => groups.contains group

/-- Where the page of a source is written: at the same place below the root of the output, with
another extension. There is no such place for a path that is not below the root of the input. -/
def outputPath? (config : SiteConfig) (source : Path) : Option Path := do
  let below ← source.below? config.inputRoot
  (config.outputRoot.join below).withExtension? ".html".toList

end SiteConfig

end ScriptSite
