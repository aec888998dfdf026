import ScriptSite.Catalog.Read
import ScriptSite.Disk.Walk
import ScriptSite.Page.Fragment
import ScriptSite.Yaml.Fault

/-!
# Failures

A build error is told to the user in one message. Other failures are accidents, which nobody
expects.
-/

namespace ScriptSite

/-- What can be missing. -/
inductive InputKind
  | inputDirectory
  | groupDirectory
  | configFile
  | catalog
  | assetDirectory
  | assetFile
  deriving DecidableEq, Repr

/-- The words for what can be missing. -/
def InputKind.message : InputKind → Text
  | .inputDirectory => "input directory".toList
  | .groupDirectory => "group directory".toList
  | .configFile => "config file".toList
  | .catalog => "catalog".toList
  | .assetDirectory => "asset directory".toList
  | .assetFile => "asset file".toList

/-- Why a file holds no configuration. -/
inductive ConfigFault
  /-- The text of the file is not written in YAML. -/
  | notYaml (text : Text) (fault : Yaml.Fault)
  | notMapping
  | unknownKeys (keys : List Text)
  | notList (key : Text)
  deriving DecidableEq, Repr

def ConfigFault.message : ConfigFault → Text
  | .notYaml text fault => fault.message text
  | .notMapping => "top level must be a mapping".toList
  | .unknownKeys keys => "unknown keys: ".toList ++ Text.joinWith [',', ' '] keys
  | .notList key => key ++ " must be a list".toList

/-- An error that the user is told about. -/
inductive BuildError
  | missing (kind : InputKind) (path : Path)
  | untitled (path : Text)
  | malformedCatalog (path : Text) (fault : CatalogFault)
  | malformedConfig (path : Path) (fault : ConfigFault)
  | notUtf8 (path : Path) (fault : Utf8.Fault)
  | unreadable (path : Path) (error : DiskError)
  | outputFailed (path : Path) (reason : Text)
  deriving DecidableEq, Repr

def BuildError.message : BuildError → Text
  | .missing kind path => "missing ".toList ++ kind.message ++ ": ".toList ++ path.toText
  | .untitled path =>
    "no '#' title line found".toList ++ (if path.isEmpty then [] else " in ".toList ++ path)
  | .malformedCatalog path fault =>
    "malformed catalog ".toList ++ path ++ ": ".toList ++ fault.message
  | .malformedConfig path fault =>
    "malformed config ".toList ++ path.toText ++ ": ".toList ++ fault.message
  | .notUtf8 path fault =>
    "cannot read ".toList ++ path.toText ++ ": not valid UTF-8 (".toList ++
      fault.reason.message.toList ++ " at byte ".toList ++ Text.ofNat fault.start ++ [')']
  | .unreadable path error => "cannot read ".toList ++ path.toText ++ ": ".toList ++ error.message
  | .outputFailed path reason => "cannot write ".toList ++ path.toText ++ ": ".toList ++ reason

/-- Why something could not be done. -/
inductive Failure
  /-- An error that the user is told about. -/
  | reported (error : BuildError)
  /-- The configuration is no text. -/
  | undecodable (fault : Utf8.Fault)
  /-- A value in the configuration cannot be built, or not be written as a text. -/
  | badValue (fault : Yaml.Fault)
  /-- A key in the configuration is unknown and no text. -/
  | untypedKey
  /-- The disk refuses where nobody expects it. -/
  | refused (error : DiskError)
  /-- A path has a character that no name has. -/
  | unnameable
  /-- An asset has more directories inside each other than can be copied. -/
  | tooDeep
  /-- There is no page for a path, which is not below the root of the input. -/
  | noOutputPath (source : Path)
  /-- A path goes through a link that leads to itself. -/
  | endlessLink
  /-- A catalog is written in an unknown encoding. -/
  | unknownEncoding
  /-- A catalog is written in an encoding that cannot be read byte by byte. -/
  | widerEncoding
  /-- A segment names a kind that no page can show. -/
  | unknownKind (name : Text)
  deriving DecidableEq, Repr

namespace Failure

/-- A fault of the disk where nobody expects one. -/
def ofFault : DiskFault → Failure
  | .refused error => .refused error
  | .unnameable => .unnameable

def ofReading (path : Path) : DiskFault → Failure
  | .refused error => .reported (.unreadable path error)
  | .unnameable => .unnameable

def ofWriting (path : Path) : DiskFault → Failure
  | .refused error => .reported (.outputFailed path error.message)
  | .unnameable => .unnameable

def ofCatalog (path : Text) : CatalogFault → Failure
  | .notXml ⟨.unknownEncoding _, _⟩ => .unknownEncoding
  | .notXml ⟨.widerEncoding, _⟩ => .widerEncoding
  | fault => .reported (.malformedCatalog path fault)

/-- An error in making the page of a source. -/
def ofPage (path : Text) : PageError → Failure
  | .untitled => .reported (.untitled path)
  | .unknownKind name => .unknownKind name

end Failure

end ScriptSite
