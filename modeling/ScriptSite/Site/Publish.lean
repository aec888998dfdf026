import ScriptSite.Disk.Copy
import ScriptSite.Site.Source

/-!
# Writing and copying

What a site is made of is written below the root of the output, where directories are made as they
are needed. Every build overwrites what is there.
-/

namespace ScriptSite

def writePage (out : Path) (page : Text) : DiskAction Failure Unit :=
  ExceptT.adapt (Failure.ofWriting out) do
    ExceptT.adapt PathFault.fault (Disk.ensureDirectories out.parent)
    Disk.writeFile out (Utf8.encode page)

/-- An error in copying to a path, told in the words of `message`. -/
def copyFailure (message : CopyError → Text) (target : Path) (error : CopyError) : Failure :=
  match error with
  | .unnameable => .unnameable
  | .tooDeep => .tooDeep
  | error => .reported (.outputFailed target (message error))

/-- Copies to a path, above which directories are made. -/
def copyTo (message : CopyError → Text) (target : Path) (copy : DiskAction CopyError Unit) :
    DiskAction Failure Unit :=
  ExceptT.adapt (copyFailure message target) do
    ExceptT.adapt (fun fault => CopyError.ofFault fault.path fault.fault)
      (Disk.ensureDirectories target.parent)
    copy

/-- Copies a directory, which must be there. -/
def copyTree (source target : Path) : DiskAction Failure Unit := do
  SiteConfig.requireDirectory .assetDirectory source
  copyTo CopyError.message target (Disk.copyTree source target)

def copyFile (source target : Path) : DiskAction Failure Unit := do
  SiteConfig.requireFile .assetFile source
  copyTo CopyError.reason target (Disk.copyFile source target)

namespace SiteConfig

/-- Where an asset is copied to: below the root of the output, with its own name. -/
def assetTarget (config : SiteConfig) (asset : Path) : Path :=
  config.outputRoot.join (.ofText asset.name)

/-- Copies an asset with `copy`, and gives the path of the copy. -/
def copyAsset (config : SiteConfig) (copy : Path → Path → DiskAction Failure Unit) (asset : Path) :
    DiskAction Failure Path := do
  let target := config.assetTarget asset
  copy asset target
  return target

/-- Copies the assets of a site, directories first, and gives the paths of the copies. -/
def copyAssets (config : SiteConfig) : DiskAction Failure (List Path) := do
  let directories ← config.assetDirectories.mapM (config.copyAsset copyTree)
  let files ← config.assetFiles.mapM (config.copyAsset copyFile)
  return directories ++ files

end SiteConfig

end ScriptSite
