import ScriptSite.Disk.Access
import ScriptSite.Site.Config
import ScriptSite.Site.Failure

/-!
# Sources

The sources of a site lie exactly one directory below the root of the input. The directories there
are the groups. Sources are listed by group and then by name.
-/

namespace ScriptSite

namespace SiteConfig

def isDirectory (path : Path) : DiskAction Failure Bool := do
  match (← get).isDirectory path with
  | .ok holds => return holds
  | .error error => throw (.refused error)

def isFile (path : Path) : DiskAction Failure Bool := do
  match (← get).isFile path with
  | .ok holds => return holds
  | .error error => throw (.refused error)

/-- Fails unless a path leads to a directory. -/
def requireDirectory (kind : InputKind) (path : Path) : DiskAction Failure Unit := do
  if !(← isDirectory path) then throw (.reported (.missing kind path))

/-- Fails unless a path leads to a file. -/
def requireFile (kind : InputKind) (path : Path) : DiskAction Failure Unit := do
  if !(← isFile path) then throw (.reported (.missing kind path))

/-- The paths of the entries of a directory, in the order of their names. -/
def children (directory : Path) : DiskAction Failure (List Path) := do
  let names ← ExceptT.adapt Failure.ofFault (Disk.list directory)
  return names.map directory.child

/-- Whether a path is that of a source: a file with the extension of sources. -/
def isSource (config : SiteConfig) (path : Path) : DiskAction Failure Bool := do
  if ← isFile path then return Path.extension path.name = config.extension else return false

/-- The sources of a group. An entry that is no directory, or a group that is not to be built, has
none. -/
def sourcesOf (config : SiteConfig) (group : Path) : DiskAction Failure (List Path) := do
  if !(← isDirectory group) then return []
  else if !config.includes group.name then return []
  else (← children group).filterM config.isSource

/-- The sources of a site. The root of the input and the groups that are asked for must be there. -/
def sources (config : SiteConfig) : DiskAction Failure (List Path) := do
  requireDirectory .inputDirectory config.inputRoot
  (config.groups.getD []).forM fun group =>
    requireDirectory .groupDirectory (config.inputRoot.join (.ofText group))
  return (← (← children config.inputRoot).mapM config.sourcesOf).flatten

end SiteConfig

/-- The text of a source, with a newline at every line end. -/
def readSource (path : Path) : DiskAction Failure Text := do
  let bytes ← ExceptT.adapt (Failure.ofReading path) (Disk.readFile path)
  match Utf8.decode bytes with
  | .ok text => return Text.normalizeNewlines text
  | .error fault => throw (.reported (.notUtf8 path fault))

/-- The entries of the elements with a name in a catalog, which must be there. -/
def loadCatalog (path : Path) (element : Text) : DiskAction Failure (List CatalogEntry) := do
  SiteConfig.requireFile .catalog path
  let bytes ← ExceptT.adapt (Failure.ofReading path) (Disk.readFile path)
  liftExcept ((Catalog.readBytes element bytes).mapError (Failure.ofCatalog path.toText))

end ScriptSite
