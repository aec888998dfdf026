import ScriptSite.Disk.Access
import ScriptSite.Site.Config
import ScriptSite.Site.Failure
import ScriptSite.Yaml.Load

/-!
# Reading configurations

A configuration file is a mapping from the names of settings to their values. A setting that is left
out or has no value keeps its standard value, and each setting is read without regard to the others.
Any value does for a setting that is a text; a list of paths may be written as a single path.
-/

namespace ScriptSite

namespace Settings

def names : List Text :=
  ["input", "output", "asset_dirs", "asset_files", "extension", "index_catalog", "demos_catalog",
    "site_name"].map String.toList

/-- The entries of the value of a file, which is a mapping or nothing. -/
def entries (data : Yaml.Data) : Except ConfigFault (List (Yaml.Value × Yaml.Value)) :=
  if data.isNothing data.root then .ok []
  else
    match data.root with
    | .collection id =>
      match data.collection? id with
      | some (.mapping entries) => .ok entries
      | _ => .error .notMapping
    | _ => .error .notMapping

def isKnown : Yaml.Value → Bool
  | .text key => names.contains key
  | _ => false

def keyText? : Yaml.Value → Option Text
  | .text key => some key
  | _ => none

/-- The keys that are no settings, in the order of their characters; nothing if one of them is no
text. -/
def unknownKeys? (entries : List (Yaml.Value × Yaml.Value)) : Option (List Text) :=
  (((entries.map Prod.fst).filter (!isKnown ·)).mapM keyText?).map (·.mergeSort Text.le)

def value? (entries : List (Yaml.Value × Yaml.Value)) (name : String) : Option Yaml.Value :=
  (entries.lookup (.text name.toList)).filter (· ≠ .null)

/-- What has been written, unless there was an integer with too many digits. -/
def written {α : Type} (text? : Option α) : Except Failure α :=
  match text? with
  | some text => .ok text
  | none => .error (.badValue .notNumber)

def text (data : Yaml.Data) (entries : List (Yaml.Value × Yaml.Value)) (name standard : String) :
    Except Failure Text :=
  match value? entries name with
  | none => .ok standard.toList
  | some value => written (data.textOf value)

/-- The texts that a value is a list of, or the text that it is. -/
def listOf? (data : Yaml.Data) : Yaml.Value → Option (List (Option Text))
  | .text chars => some [some chars]
  | .collection id =>
    match data.collection? id with
    | some (.sequence items) => some (items.map data.textOf)
    | some (.pairs entries) => some (entries.map data.pairText)
    | _ => none
  | _ => none

/-- The texts of a setting in the file with this path. -/
def list (path : Path) (data : Yaml.Data) (entries : List (Yaml.Value × Yaml.Value)) (name : String)
    (standard : List String) : Except Failure (List Text) :=
  match value? entries name with
  | none => .ok (standard.map String.toList)
  | some value =>
    match listOf? data value with
    | some texts => written (texts.mapM id)
    | none => .error (.reported (.malformedConfig path (.notList name.toList)))

/-- An extension with the dot it begins with. -/
def dotted (extension : Text) : Text :=
  if extension.head? = some '.' then extension else '.' :: extension

/-- The configuration of a project whose file has these entries. Of several settings that cannot be
read the first in this order counts. -/
def config (root path : Path) (data : Yaml.Data) (entries : List (Yaml.Value × Yaml.Value)) :
    Except Failure SiteConfig := do
  let below (text : Text) : Path := root.join (.ofText text)
  let extension ← text data entries "extension" ".bip"
  let input ← text data entries "input" "src"
  let output ← text data entries "output" "html"
  let directories ← list path data entries "asset_dirs" ["sh", "img"]
  let files ← list path data entries "asset_files" ["examples.css"]
  let indexCatalog ← text data entries "index_catalog" "index.xml"
  let demosCatalog ← text data entries "demos_catalog" "demos.xml"
  let siteName ← text data entries "site_name" (String.ofList Page.defaultSiteName)
  return {
    inputRoot := below input
    outputRoot := below output
    assetDirectories := directories.map below
    assetFiles := files.map below
    extension := dotted extension
    indexCatalog
    demosCatalog
    siteName }

/-- The configuration of a project whose file has a value. -/
def ofData (root path : Path) (data : Yaml.Data) : Except Failure SiteConfig :=
  let reported (fault : ConfigFault) : Failure := .reported (.malformedConfig path fault)
  match entries data with
  | .error fault => .error (reported fault)
  | .ok entries =>
    match unknownKeys? entries with
    | none => .error .untypedKey
    | some [] => config root path data entries
    | some keys => .error (reported (.unknownKeys keys))

/-- A fault of the text of a file. -/
def ofYamlFault (path : Path) (text : Text) (fault : Yaml.Fault) : Failure :=
  match fault with
  | .unacceptable _ _ | .problem _ => .reported (.malformedConfig path (.notYaml text fault))
  | _ => .badValue fault

/-- The configuration of a project whose file holds these bytes. -/
def ofBytes (root path : Path) (bytes : Bytes) : Except Failure SiteConfig :=
  match Utf8.decode bytes with
  | .error fault => .error (.undecodable fault)
  | .ok text =>
    let text := Text.normalizeNewlines text
    match Yaml.Data.ofText text with
    | .error fault => .error (ofYamlFault path text fault)
    | .ok data => ofData root path data

/-- The value of a file that says nothing. -/
def nothing : Yaml.Data :=
  { root := .null, collections := [] }

end Settings

namespace SiteConfig

/-- The name of the configuration file of a project. -/
def fileName : Text :=
  "bipdoc.yaml".toList

def readFile (root path : Path) : DiskAction Failure SiteConfig := do
  let bytes ← ExceptT.adapt Failure.ofFault (Disk.readFile path)
  liftExcept (Settings.ofBytes root path bytes)

/-- Reads the configuration of a project: the file with the given path, which must be there, or else
the one in the root of the project, if it is there. -/
def load (root : Path) (path? : Option Path) : DiskAction Failure SiteConfig := do
  let path := path?.getD (root.child fileName)
  match (← get).isFile path, path? with
  | .error error, _ => throw (.refused error)
  | .ok true, _ => readFile root path
  | .ok false, some path => throw (.reported (.missing .configFile path))
  | .ok false, none => liftExcept (Settings.ofData root path Settings.nothing)

end SiteConfig

end ScriptSite
