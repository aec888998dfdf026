import ScriptSite.Site.Settings

/-!
# The settings of a configuration

There are eight settings. A mapping holds a value for each of them, the absent value if it has no
entry for it, and this value alone gives the texts of the setting, or a trouble with it (`textsOf`).
A configuration is put together from the texts of its settings if there is no trouble with any of
them, and otherwise the first setting that there is trouble with decides the failure (`config_eq`).
-/

namespace ScriptSite

/-- The settings, in the order in which they are read. -/
inductive Setting
  | extension
  | input
  | output
  | assetDirectories
  | assetFiles
  | indexCatalog
  | demosCatalog
  | siteName
  deriving DecidableEq

namespace Setting

variable {root path : Path} {data : Yaml.Data} {entries : List (Yaml.Value × Yaml.Value)}
  {setting : Setting} {value : Yaml.Value} {texts : Setting → List Text}

def all : List Setting :=
  [extension, input, output, assetDirectories, assetFiles, indexCatalog, demosCatalog, siteName]

theorem mem_all (setting : Setting) : setting ∈ all := by
  cases setting <;> decide

def name : Setting → String
  | extension => "extension"
  | input => "input"
  | output => "output"
  | assetDirectories => "asset_dirs"
  | assetFiles => "asset_files"
  | indexCatalog => "index_catalog"
  | demosCatalog => "demos_catalog"
  | siteName => "site_name"

def isList : Setting → Bool
  | assetDirectories | assetFiles => true
  | _ => false

/-- The texts of a setting that nothing is said about. -/
def standard : Setting → List String
  | extension => [".bip"]
  | input => ["src"]
  | output => ["html"]
  | assetDirectories => ["sh", "img"]
  | assetFiles => ["examples.css"]
  | indexCatalog => ["index.xml"]
  | demosCatalog => ["demos.xml"]
  | siteName => [String.ofList Page.defaultSiteName]

/-- What a mapping holds for a setting. -/
def held (entries : List (Yaml.Value × Yaml.Value)) (setting : Setting) : Yaml.Value :=
  (entries.lookup (.text setting.name.toList)).getD .null

/-- What can be wrong with the value of a setting. -/
inductive Trouble
  /-- A list is wanted, and the value is neither a list nor a text. -/
  | notList
  /-- There is an integer in the value with more digits than are written. -/
  | longNumber
  deriving DecidableEq

/-- What the trouble with a setting makes of the configuration in a file. -/
def Trouble.failure (path : Path) (setting : Setting) : Trouble → Failure
  | .notList => .reported (.malformedConfig path (.notList setting.name.toList))
  | .longNumber => .badValue .notNumber

/-- The texts that a setting has from its value. -/
def textsOf (data : Yaml.Data) (setting : Setting) (value : Yaml.Value) :
    Except Trouble (List Text) :=
  if value = .null then .ok (setting.standard.map String.toList)
  else if setting.isList then
    match Settings.listOf? data value with
    | none => .error .notList
    | some texts =>
      match texts.mapM id with
      | none => .error .longNumber
      | some texts => .ok texts
  else
    match data.textOf value with
    | none => .error .longNumber
    | some text => .ok [text]

def trouble? (data : Yaml.Data) (setting : Setting) (value : Yaml.Value) : Option Trouble :=
  match setting.textsOf data value with
  | .ok _ => none
  | .error trouble => some trouble

/-- The first setting of a mapping that there is trouble with. -/
def firstTrouble? (data : Yaml.Data) (entries : List (Yaml.Value × Yaml.Value)) :
    Option (Setting × Trouble) :=
  all.findSome? fun setting => (setting.trouble? data (setting.held entries)).map (setting, ·)

/-- The configuration that is put together from the texts of its settings. -/
def assemble (root : Path) (texts : Setting → List Text) : SiteConfig where
  inputRoot := root.join (.ofText ((texts input).headD []))
  outputRoot := root.join (.ofText ((texts output).headD []))
  assetDirectories := (texts assetDirectories).map fun text => root.join (.ofText text)
  assetFiles := (texts assetFiles).map fun text => root.join (.ofText text)
  extension := Settings.dotted ((texts extension).headD [])
  indexCatalog := (texts indexCatalog).headD []
  demosCatalog := (texts demosCatalog).headD []
  siteName := (texts siteName).headD []

@[simp]
theorem held_nil (setting : Setting) : setting.held [] = .null := rfl

theorem trouble?_eq_none_iff :
    setting.trouble? data value = none ↔ ∃ texts, setting.textsOf data value = .ok texts := by
  cases read : setting.textsOf data value <;> simp [trouble?, read]

theorem trouble?_eq_some_iff {trouble : Trouble} :
    setting.trouble? data value = some trouble ↔ setting.textsOf data value = .error trouble := by
  cases read : setting.textsOf data value <;> simp [trouble?, read]

theorem firstTrouble?_eq_none_iff :
    firstTrouble? data entries = none ↔
      ∀ setting : Setting, ∃ texts, setting.textsOf data (setting.held entries) = .ok texts := by
  simp [firstTrouble?, mem_all, trouble?_eq_none_iff]

theorem firstTrouble?_nil (data : Yaml.Data) : firstTrouble? data [] = none :=
  firstTrouble?_eq_none_iff.mpr fun _ => ⟨_, rfl⟩

theorem value?_eq (entries : List (Yaml.Value × Yaml.Value)) (setting : Setting) :
    Settings.value? entries setting.name =
      if setting.held entries = .null then none else some (setting.held entries) := by
  rw [Settings.value?, held]
  rcases found : entries.lookup (.text setting.name.toList) with _ | value
  · simp [found]
  · by_cases null : value = .null
    · simp [found, null]
    · simp [found, null]

theorem text_eq (path : Path) (setting : Setting) (notList : setting.isList = false)
    {standard : String} (isStandard : setting.standard = [standard]) :
    Settings.text data entries setting.name standard =
      ((setting.textsOf data (setting.held entries)).mapError (Trouble.failure path setting)).map
        (·.headD []) := by
  rw [Settings.text, value?_eq, textsOf]
  by_cases null : setting.held entries = .null
  · simp only [null, if_true, isStandard]
    rfl
  · simp only [null, notList, if_false, Bool.false_eq_true]
    cases data.textOf (setting.held entries) <;> rfl

theorem list_eq (path : Path) (setting : Setting) (isList : setting.isList = true) :
    Settings.list path data entries setting.name setting.standard =
      (setting.textsOf data (setting.held entries)).mapError (Trouble.failure path setting) := by
  rw [Settings.list, value?_eq, textsOf]
  by_cases null : setting.held entries = .null
  · simp only [null, if_true]
    rfl
  · simp only [null, isList, if_true, if_false]
    cases Settings.listOf? data (setting.held entries) with
    | none => rfl
    | some texts =>
        simp only
        cases texts.mapM id <;> rfl

/-- The first trouble with a setting decides, and without one a configuration is put together. -/
theorem config_eq (root path : Path) (data : Yaml.Data)
    (entries : List (Yaml.Value × Yaml.Value)) :
    Settings.config root path data entries =
      match firstTrouble? data entries with
      | none => .ok (assemble root fun setting =>
          (setting.textsOf data (setting.held entries)).toOption.getD [])
      | some (setting, trouble) => .error (trouble.failure path setting) := by
  have isExtension : Settings.text data entries "extension" ".bip" = _ :=
    text_eq path extension rfl rfl
  have isInput : Settings.text data entries "input" "src" = _ :=
    text_eq path input rfl rfl
  have isOutput : Settings.text data entries "output" "html" = _ :=
    text_eq path output rfl rfl
  have areDirectories : Settings.list path data entries "asset_dirs" ["sh", "img"] = _ :=
    list_eq path assetDirectories rfl
  have areFiles : Settings.list path data entries "asset_files" ["examples.css"] = _ :=
    list_eq path assetFiles rfl
  have isIndex : Settings.text data entries "index_catalog" "index.xml" = _ :=
    text_eq path indexCatalog rfl rfl
  have isDemos : Settings.text data entries "demos_catalog" "demos.xml" = _ :=
    text_eq path demosCatalog rfl rfl
  have isName : Settings.text data entries "site_name" (String.ofList Page.defaultSiteName) = _ :=
    text_eq path siteName rfl rfl
  simp only [Settings.config, isExtension, isInput, isOutput, areDirectories, areFiles, isIndex,
    isDemos, isName, firstTrouble?, trouble?, all, assemble, List.findSome?_cons,
    List.findSome?_nil]
  -- One after the other: a trouble ends the reading, and texts let it go on.
  rcases textsOf data extension (held entries extension) with trouble | extension
  · rfl
  rcases textsOf data input (held entries input) with trouble | input
  · rfl
  rcases textsOf data output (held entries output) with trouble | output
  · rfl
  rcases textsOf data assetDirectories (held entries assetDirectories) with trouble | directories
  · rfl
  rcases textsOf data assetFiles (held entries assetFiles) with trouble | files
  · rfl
  rcases textsOf data indexCatalog (held entries indexCatalog) with trouble | indexCatalog
  · rfl
  rcases textsOf data demosCatalog (held entries demosCatalog) with trouble | demosCatalog
  · rfl
  rcases textsOf data siteName (held entries siteName) with trouble | siteName
  · rfl
  rfl

end Setting

end ScriptSite
