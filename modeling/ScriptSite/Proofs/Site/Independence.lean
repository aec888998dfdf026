import ScriptSite.Proofs.Site.Extension
import ScriptSite.Proofs.Site.Malformed
import ScriptSite.Proofs.Yaml.Alike

/-!
# Settings are independent

A configuration that is loaded from a mapping has, for each setting, what its value gives
(`LoadsMapping.eq_assemble`). So two mappings agree on a setting if they hold the same value for it,
and also if they spell it in two ways that mean the same (`Interchangeable`). It does not matter
what else they hold, in which order, or how the nodes of the two documents are numbered.
-/

namespace ScriptSite

open Disk

namespace Setting

variable {data dataOther : Yaml.Data} {setting : Setting} {value other : Yaml.Value}
  {texts textsOther : Setting → List Text}

def SameField (setting : Setting) (config other : SiteConfig) : Prop :=
  match setting with
  | extension => config.extension = other.extension
  | input => config.inputRoot = other.inputRoot
  | output => config.outputRoot = other.outputRoot
  | assetDirectories => config.assetDirectories = other.assetDirectories
  | assetFiles => config.assetFiles = other.assetFiles
  | indexCatalog => config.indexCatalog = other.indexCatalog
  | demosCatalog => config.demosCatalog = other.demosCatalog
  | siteName => config.siteName = other.siteName

/-- Whether two values mean the same for a setting: they are the same, or one is a text and the
other one is the list of it, or one is an extension and the other one has the dot before it. -/
inductive Interchangeable (data dataOther : Yaml.Data) : Setting → Yaml.Value → Yaml.Value → Prop
  | alike {setting : Setting} {value other : Yaml.Value}
      (alike : Yaml.Data.Alike data dataOther value other) :
      Interchangeable data dataOther setting value other
  | single {setting : Setting} {text : Text} {id : Yaml.NodeId} (isList : setting.isList = true)
      (holds : dataOther.collection? id = some (.sequence [.text text])) :
      Interchangeable data dataOther setting (.text text) (.collection id)
  | dotted {text : Text} (undotted : text.head? ≠ some '.') :
      Interchangeable data dataOther extension (.text text) (.text ('.' :: text))

theorem sameField_assemble (root : Path) (same : texts setting = textsOther setting) :
    setting.SameField (assemble root texts) (assemble root textsOther) := by
  cases setting <;> simp [SameField, assemble, same]

/-- Collections of one shape and with the same values are lists of the same texts, or no lists. -/
theorem listOf?_collection_eq {id another : Yaml.NodeId} {collection counterpart : Yaml.Collection}
    {same : Yaml.NodeId → Yaml.NodeId → Prop}
    (matching : Yaml.Data.Matches data dataOther same)
    (holds : data.collection? id = some collection)
    (holdsOther : dataOther.collection? another = some counterpart)
    (shape : collection.shape = counterpart.shape)
    (values : List.Forall₂ (Yaml.Data.Related same) collection.values counterpart.values) :
    Settings.listOf? data (.collection id) = Settings.listOf? dataOther (.collection another) := by
  cases collection with
  | sequence items =>
      cases counterpart with
      | sequence others =>
          simp only [Settings.listOf?, holds, holdsOther, Option.some.injEq]
          apply Yaml.Data.map_eq_map_of_forall₂ values
          intro item _ other _ related
          exact matching.textOf_eq related
      | _ => cases shape
  | pairs entries =>
      cases counterpart with
      | pairs others =>
          simp only [Settings.listOf?, holds, holdsOther, Option.some.injEq]
          apply Yaml.Data.map_shownPair_eq
          apply Yaml.Data.map_eq_map_of_forall₂ values
          intro item _ other _ related
          exact matching.shown_eq_nil related
      | _ => cases shape
  | mapping entries =>
      cases counterpart with
      | mapping others => simp [Settings.listOf?, holds, holdsOther]
      | _ => cases shape
  | set items =>
      cases counterpart with
      | set others => simp [Settings.listOf?, holds, holdsOther]
      | _ => cases shape

theorem listOf?_eq_of_alike (alike : Yaml.Data.Alike data dataOther value other) :
    Settings.listOf? data value = Settings.listOf? dataOther other := by
  rcases alike with ⟨same, matching, related⟩
  cases related with
  | plain plain =>
      cases value with
      | collection id => exact absurd rfl (plain id)
      | _ => rfl
  | @collection id another isSame =>
      have shape := matching.shape isSame
      have values := matching.values isSame
      rcases holds : data.collection? id with _ | collection <;>
        rcases holdsOther : dataOther.collection? another with _ | counterpart
      · simp [Settings.listOf?, holds, holdsOther]
      · simp [Yaml.Data.shapeAt, holds, holdsOther] at shape
      · simp [Yaml.Data.shapeAt, holds, holdsOther] at shape
      · rw [Yaml.Data.valuesAt_of_holds holds, Yaml.Data.valuesAt_of_holds holdsOther] at values
        apply listOf?_collection_eq matching holds holdsOther _ values
        simpa [Yaml.Data.shapeAt, holds, holdsOther] using shape

theorem textsOf_eq_of_alike (alike : Yaml.Data.Alike data dataOther value other) :
    setting.textsOf data value = setting.textsOf dataOther other := by
  have null_iff : value = .null ↔ other = .null := by
    rcases alike with ⟨same, matching, related⟩
    cases related <;> simp
  simp only [textsOf, null_iff, listOf?_eq_of_alike alike, Yaml.Data.textOf_eq_of_alike alike]

/-- A text does as well as the list of it. -/
theorem textsOf_single {text : Text} {id : Yaml.NodeId} (isList : setting.isList = true)
    (holds : dataOther.collection? id = some (.sequence [.text text])) :
    setting.textsOf data (.text text) = setting.textsOf dataOther (.collection id) := by
  simp [textsOf, isList, Settings.listOf?, holds, Yaml.Data.textOf]

/-- An extension does without its dot. -/
theorem dotted_cons {text : Text} (undotted : text.head? ≠ some '.') :
    Settings.dotted ('.' :: text) = Settings.dotted text := by
  simp [Settings.dotted, undotted]

end Setting

namespace SiteConfig

variable {root : Path} {disk diskOther bare : Disk} {path? pathOther? : Option Path}
  {data dataOther : Yaml.Data} {entries entriesOther : List (Yaml.Value × Yaml.Value)}
  {config other : SiteConfig} {setting : Setting}

/-- Whether a configuration is loaded from a file with a mapping that has these entries. -/
structure LoadsMapping (root : Path) (path? : Option Path) (disk : Disk) (data : Yaml.Data)
    (entries : List (Yaml.Value × Yaml.Value)) (config : SiteConfig) : Prop where
  holds : HoldsDocument disk (path?.getD (root.child fileName)) data
  isMapping : data.IsMapping entries
  loaded : runOn (load root path?) disk = (.ok config, disk)

/-- What is loaded from a mapping has what the values in it give. -/
theorem LoadsMapping.eq_assemble (loads : LoadsMapping root path? disk data entries config) :
    config = Setting.assemble root fun setting =>
      (setting.textsOf data (setting.held entries)).toOption.getD [] := by
  have made := loads.loaded
  rw [runOn_load_of_holdsDocument root path? loads.holds, Prod.mk.injEq] at made
  rw [Settings.ofData, loads.isMapping.entries_eq] at made
  simp only [and_true] at made
  split at made
  · cases made
  · rw [Setting.config_eq] at made
    split at made
    · exact (Except.ok.inj made).symm
    · cases made
  · cases made

theorem LoadsMapping.sameField (loads : LoadsMapping root path? disk data entries config)
    (loadsOther : LoadsMapping root pathOther? diskOther dataOther entriesOther other)
    (same : setting.Interchangeable data dataOther (setting.held entries)
      (setting.held entriesOther)) :
    setting.SameField config other := by
  rw [loads.eq_assemble, loadsOther.eq_assemble]
  -- The values have to be variables for the cases of what they have in common.
  generalize held : setting.held entries = value at same
  generalize heldOther : setting.held entriesOther = valueOther at same
  cases same with
  | alike alike =>
      apply Setting.sameField_assemble
      rw [held, heldOther, Setting.textsOf_eq_of_alike alike]
  | single isList holds =>
      apply Setting.sameField_assemble
      rw [held, heldOther, Setting.textsOf_single isList holds]
  | dotted undotted =>
      simpa [Setting.SameField, Setting.assemble, held, heldOther, Setting.textsOf, Setting.isList,
        Yaml.Data.textOf, Except.toOption] using (Setting.dotted_cons undotted).symm

theorem runOn_load_of_not_isFile (absent : bare.isFile (root.child fileName) = .ok false) :
    runOn (load root none) bare = (.ok (standard root), bare) := by
  rw [load, runOn_bind, runOn_get]
  simp only [Option.getD_none, absent, runOn_liftExcept]
  rw [ofData_of_nothing root (root.child fileName) rfl]

/-- A setting that nothing is said about is as it is without a file. -/
theorem LoadsMapping.sameField_standard (loads : LoadsMapping root path? disk data entries config)
    (null : setting.held entries = .null) : setting.SameField config (standard root) := by
  rw [loads.eq_assemble]
  apply Setting.sameField_assemble
  simp [null, Setting.textsOf, Except.toOption]

/-- Two mappings that configurations are loaded from agree on each setting for which their values
mean the same, whatever else they hold. A setting without a value is as it is without a file, and
the extension begins with a dot. -/
theorem settings_independent (loads : LoadsMapping root path? disk data entries config)
    (loadsOther : LoadsMapping root pathOther? diskOther dataOther entriesOther other) :
    (∀ setting : Setting, setting.Interchangeable data dataOther (setting.held entries)
        (setting.held entriesOther) → setting.SameField config other) ∧
      (∀ bare : Disk, bare.isFile (root.child fileName) = .ok false →
        ∃ plain, runOn (load root none) bare = (.ok plain, bare) ∧
          ∀ setting : Setting, setting.held entries = .null → setting.SameField config plain) ∧
      config.extension.head? = some '.' := by
  refine ⟨?_, ?_, (groups_and_extension_of_runOn_load loads.loaded).2⟩
  · intro setting same
    exact loads.sameField loadsOther same
  · intro bare absent
    refine ⟨standard root, runOn_load_of_not_isFile absent, ?_⟩
    intro setting null
    exact loads.sameField_standard null

/-- Two files that say the same about three settings in different ways and orders, with the
collections at different nodes. Only the second one says something about the output. -/
def terseText : Text :=
  "asset_dirs: sh\nextension: txt\nsite_name: [x, [2]]\n".toList

def terseEntries : List (Yaml.Value × Yaml.Value) :=
  [(.text "asset_dirs".toList, .text "sh".toList), (.text "extension".toList, .text "txt".toList),
    (.text "site_name".toList, .collection 6)]

def terse : Yaml.Data where
  root := .collection 0
  collections :=
    [(8, .sequence [.integer 2]), (6, .sequence [.text ['x'], .collection 8]),
      (0, .mapping terseEntries)]

def wordyText : Text :=
  "site_name:\n- x\n- [2]\nextension: .txt\nasset_dirs: [sh]\noutput: 1\n".toList

def wordyEntries : List (Yaml.Value × Yaml.Value) :=
  [(.text "site_name".toList, .collection 2), (.text "extension".toList, .text ".txt".toList),
    (.text "asset_dirs".toList, .collection 9), (.text "output".toList, .integer 1)]

def wordy : Yaml.Data where
  root := .collection 0
  collections :=
    [(4, .sequence [.integer 2]), (9, .sequence [.text "sh".toList]),
      (2, .sequence [.text ['x'], .collection 4]), (0, .mapping wordyEntries)]

def terseConfig : SiteConfig :=
  { standard bareRoot with
    assetDirectories := [bareRoot.child "sh".toList]
    extension := ".txt".toList
    siteName := "['x', [2]]".toList }

def wordyConfig : SiteConfig :=
  { terseConfig with outputRoot := bareRoot.child "1".toList }

theorem loadsMapping_bareDisk {text : Text} (known : Utf8.decode (Utf8.encode text) = .ok text)
    (found : (bareDisk text).find (bareRoot.child fileName) =
      .ok (["p".toList, fileName], .file (Utf8.encode text)))
    (parsed : Yaml.Data.ofText (Text.normalizeNewlines text) = .ok data)
    (isMapping : data.IsMapping entries)
    (read : Settings.ofData bareRoot (bareRoot.child fileName) data = .ok config) :
    LoadsMapping bareRoot none (bareDisk text) data entries config := by
  have holds : HoldsDocument (bareDisk text) (bareRoot.child fileName) data :=
    ⟨_, _, text, found, known, parsed⟩
  refine ⟨holds, isMapping, ?_⟩
  rw [runOn_load_of_holdsDocument bareRoot none holds]
  rw [Option.getD_none, read]

theorem loadsMapping_terse :
    LoadsMapping bareRoot none (bareDisk terseText) terse terseEntries terseConfig := by
  apply loadsMapping_bareDisk _ _ _ ⟨0, rfl, rfl⟩
  all_goals decide +kernel

theorem loadsMapping_wordy :
    LoadsMapping bareRoot none (bareDisk wordyText) wordy wordyEntries wordyConfig := by
  apply loadsMapping_bareDisk _ _ _ ⟨0, rfl, rfl⟩
  all_goals decide +kernel

theorem alike_terse_wordy : Yaml.Data.Alike terse wordy (.collection 6) (.collection 2) := by
  let pairs : List (Yaml.NodeId × Yaml.NodeId) := [(6, 2), (8, 4)]
  have sameShape : ∀ pair ∈ pairs, terse.shapeAt pair.1 = wordy.shapeAt pair.2 := by
    decide
  have functional : ∀ first ∈ pairs, ∀ second ∈ pairs, first.1 = second.1 ↔ first.2 = second.2 := by
    decide
  refine ⟨fun id other => (id, other) ∈ pairs, ⟨?_, ?_, ?_, ?_⟩, .collection (by decide)⟩
  · intro id other same
    exact sameShape _ same
  · intro id other same
    simp only [pairs, List.mem_cons, Prod.mk.injEq, List.not_mem_nil, or_false] at same
    rcases same with ⟨rfl, rfl⟩ | ⟨rfl, rfl⟩
    · exact .cons (.plain (by simp)) (.cons (.collection (by decide)) .nil)
    · exact .cons (.plain (by simp)) .nil
  · intro id other another first second _
    exact (functional _ first _ second).mp rfl
  · intro id other another first second _
    exact (functional _ first _ second).mpr rfl

/-- The theorem about mappings that mean the same, for these. -/
theorem sameField_terse_wordy :
    LoadsMapping bareRoot none (bareDisk terseText) terse terseEntries terseConfig ∧
      LoadsMapping bareRoot none (bareDisk wordyText) wordy wordyEntries wordyConfig ∧
      (∀ setting ∈ [Setting.siteName, .extension, .assetDirectories],
        setting.held terseEntries ≠ .null ∧ setting.SameField terseConfig wordyConfig) ∧
      Setting.output.held terseEntries = .null ∧
      ∃ plain, runOn (load bareRoot none) { entries := [] } = (.ok plain, { entries := [] }) ∧
        Setting.output.SameField terseConfig plain := by
  rcases settings_independent loadsMapping_terse loadsMapping_wordy with ⟨independent, absent, _⟩
  refine ⟨loadsMapping_terse, loadsMapping_wordy, ?_, rfl, ?_⟩
  · intro setting mem
    simp only [List.mem_cons, List.not_mem_nil, or_false] at mem
    rcases mem with rfl | rfl | rfl
    · exact ⟨by decide, independent .siteName (.alike alike_terse_wordy)⟩
    · exact ⟨by decide, independent .extension (.dotted (by decide))⟩
    · exact ⟨by decide, independent .assetDirectories (.single rfl rfl)⟩
  · rcases absent { entries := [] } (by decide +kernel) with ⟨plain, loaded, same⟩
    exact ⟨plain, loaded, same .output rfl⟩

end SiteConfig

end ScriptSite
