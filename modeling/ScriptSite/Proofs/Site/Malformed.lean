import ScriptSite.Proofs.Site.Loading
import ScriptSite.Proofs.Yaml.Shown

/-!
# Malformed configurations

The document in a configuration file is malformed if it is neither a mapping nor nothing at all, or
has a key that is no setting, or a value for a list of paths that is neither a list nor a text
(`IsMalformed`). Loading tells malformed documents from the others, with an error for the former and
a configuration for the latter, except for documents of three kinds (`Slips`): an empty or false
value in place of a mapping passes for a file that says nothing, a key that is no text is not
reported as unknown, and a number with too many digits is not written as a text. The outcome for
these is known, and they are the only ones (`tellsApart_iff`).
-/

namespace ScriptSite

open Disk

namespace Yaml.Data

variable {data : Data} {entries others : List (Value × Value)}

def IsMapping (data : Data) (entries : List (Value × Value)) : Prop :=
  ∃ id, data.root = .collection id ∧ data.collection? id = some (.mapping entries)

/-- Whether a value is a text or a list. A list of pairs is a list. -/
inductive IsTextOrList (data : Data) : Value → Prop
  | text (chars : Text) : IsTextOrList data (.text chars)
  | sequence {id : NodeId} {items : List Value}
      (holds : data.collection? id = some (.sequence items)) : IsTextOrList data (.collection id)
  | pairs {id : NodeId} {entries : List (Value × Value)}
      (holds : data.collection? id = some (.pairs entries)) : IsTextOrList data (.collection id)

theorem IsMapping.eq (isMapping : data.IsMapping entries) (also : data.IsMapping others) :
    entries = others := by
  rcases isMapping with ⟨id, isRoot, holds⟩
  rcases also with ⟨other, isOther, holdsOther⟩
  have same : id = other := by
    simpa [isRoot] using isOther
  subst same
  simpa [holds] using holdsOther

theorem IsMapping.entries_eq (isMapping : data.IsMapping entries) :
    Settings.entries data = .ok entries := by
  rcases isMapping with ⟨id, isRoot, holds⟩
  cases entries with
  | nil => simp [Settings.entries, isNothing, isRoot, holds, Collection.isEmpty]
  | cons entry entries => simp [Settings.entries, isNothing, isRoot, holds, Collection.isEmpty]

theorem entries_of_isNothing (isNothing : data.isNothing data.root = true) :
    Settings.entries data = .ok [] := by
  simp [Settings.entries, isNothing]

theorem entries_of_not_isMapping (something : ¬data.isNothing data.root = true)
    (noMapping : ∀ entries, ¬data.IsMapping entries) :
    Settings.entries data = .error .notMapping := by
  rw [Settings.entries, if_neg something]
  split
  · rename_i id isRoot
    split
    · rename_i entries holds
      exact absurd ⟨id, isRoot, holds⟩ (noMapping entries)
    · rfl
  · rfl

theorem listOf?_eq_none_iff {value : Value} :
    Settings.listOf? data value = none ↔ ¬data.IsTextOrList value := by
  constructor
  · intro none isTextOrList
    cases isTextOrList with
    | text chars => simp [Settings.listOf?] at none
    | sequence holds => simp [Settings.listOf?, holds] at none
    | pairs holds => simp [Settings.listOf?, holds] at none
  · intro noList
    rw [Settings.listOf?.eq_def]
    split
    · exact absurd (.text _) noList
    · split
      · rename_i holds
        exact absurd (.sequence holds) noList
      · rename_i holds
        exact absurd (.pairs holds) noList
      · rfl
    · rfl

end Yaml.Data

namespace Setting

variable {data : Yaml.Data} {entries : List (Yaml.Value × Yaml.Value)} {key value : Yaml.Value}
  {setting : Setting}

/-- Whether a key names a setting. -/
def Names (key : Yaml.Value) : Prop :=
  ∃ setting : Setting, key = .text setting.name.toList

theorem isKnown_iff : Settings.isKnown key = true ↔ Names key := by
  have names : (all.map fun setting => setting.name.toList).Perm Settings.names := by decide
  constructor
  · intro known
    cases key with
    | text chars =>
        simp only [Settings.isKnown, List.contains_iff_mem, ← names.mem_iff, List.mem_map] at known
        rcases known with ⟨setting, _, rfl⟩
        exact ⟨setting, rfl⟩
    | _ => cases known
  · rintro ⟨setting, rfl⟩
    simp only [Settings.isKnown, List.contains_iff_mem, ← names.mem_iff]
    exact List.mem_map_of_mem (mem_all setting)

theorem unknownKeys?_eq_nil_iff :
    Settings.unknownKeys? entries = some [] ↔ ∀ key value, (key, value) ∈ entries → Names key := by
  have none_unknown : Settings.unknownKeys? entries = some [] ↔
      (entries.map Prod.fst).filter (!Settings.isKnown ·) = [] := by
    rw [Settings.unknownKeys?]
    rcases (entries.map Prod.fst).filter (!Settings.isKnown ·) with _ | ⟨key, keys⟩
    · simp
    · simp only [reduceCtorEq, iff_false]
      intro none
      rcases Option.map_eq_some_iff.mp none with ⟨texts, read, sorted⟩
      have empty : texts = [] := by
        simpa using congrArg List.length sorted
      subst empty
      rw [List.mapM_cons] at read
      cases first : Settings.keyText? key with
      | none => simp [first] at read
      | some text => cases later : keys.mapM Settings.keyText? <;> simp [first, later] at read
  rw [none_unknown, List.filter_eq_nil_iff]
  constructor
  · intro known key value mem
    apply isKnown_iff.mp
    simpa using known key (List.mem_map_of_mem mem)
  · intro known key mem
    rcases List.mem_map.mp mem with ⟨⟨_, value⟩, entryMem, rfl⟩
    simpa using isKnown_iff.mpr (known _ value entryMem)

/-- What is wrong with the value of a setting: a list is wanted and the value is none, or there is a
number in it with too many digits. -/
inductive Troubled (data : Yaml.Data) (setting : Setting) (value : Yaml.Value) : Trouble → Prop
  | notList (isList : setting.isList = true) (notNull : value ≠ .null)
      (noList : ¬data.IsTextOrList value) : Troubled data setting value .notList
  | longNumber (notNull : value ≠ .null)
      (fits : setting.isList = true → data.IsTextOrList value) (long : data.HoldsLong value) :
      Troubled data setting value .longNumber

theorem isTextOrList_of_listOf? {texts : List (Option Text)}
    (listed : Settings.listOf? data value = some texts) : data.IsTextOrList value := by
  by_contra noList
  simp [Yaml.Data.listOf?_eq_none_iff.mpr noList] at listed

theorem mapM_eq_none_iff_of_listOf? {texts : List (Option Text)}
    (listed : Settings.listOf? data value = some texts) :
    texts.mapM id = none ↔ data.HoldsLong value := by
  rw [Yaml.mapM_eq_none_iff]
  cases isTextOrList_of_listOf? listed with
  | text chars =>
      cases listed
      constructor
      · simp
      · rintro ⟨number, reaches, _⟩
        cases reaches
  | sequence holds =>
      simp only [Settings.listOf?, holds, Option.some.injEq] at listed
      subst listed
      simp [Yaml.Data.holdsLong_collection_iff, Yaml.Data.valuesAt_of_holds holds,
        Yaml.Collection.values, Yaml.Data.textOf_eq_none_iff]
  | pairs holds =>
      simp only [Settings.listOf?, holds, Option.some.injEq] at listed
      subst listed
      rw [Yaml.Data.holdsLong_collection_iff, Yaml.Data.valuesAt_of_holds holds,
        Yaml.Collection.values, Yaml.Data.exists_mem_flatMap_iff]
      simp [Yaml.Data.pairText_eq_none_iff]

theorem textsOf_list_eq_error_iff {trouble : Trouble} (isList : setting.isList = true)
    (notNull : value ≠ .null) :
    setting.textsOf data value = .error trouble ↔ Troubled data setting value trouble := by
  rw [textsOf, if_neg notNull, if_pos isList]
  cases listed : Settings.listOf? data value with
  | none =>
      have noList := Yaml.Data.listOf?_eq_none_iff.mp listed
      constructor
      · intro failed
        cases failed
        exact .notList isList notNull noList
      · intro troubled
        cases troubled with
        | notList => rfl
        | longNumber _ fits => exact absurd (fits isList) noList
  | some texts =>
      have fits := isTextOrList_of_listOf? listed
      have long := mapM_eq_none_iff_of_listOf? listed
      constructor
      · intro failed
        cases written : texts.mapM id with
        | some all => simp [written] at failed
        | none =>
            simp only [written, Except.error.injEq] at failed
            subst failed
            exact .longNumber notNull (fun _ => fits) (long.mp written)
      · intro troubled
        cases troubled with
        | notList _ _ noList => exact absurd fits noList
        | longNumber _ _ holdsLong => simp [long.mpr holdsLong]

theorem textsOf_text_eq_error_iff {trouble : Trouble} (isText : setting.isList = false)
    (notNull : value ≠ .null) :
    setting.textsOf data value = .error trouble ↔ Troubled data setting value trouble := by
  have long : data.textOf value = none ↔ data.HoldsLong value := Yaml.Data.textOf_eq_none_iff
  simp only [textsOf, if_neg notNull, isText, Bool.false_eq_true, if_false]
  constructor
  · intro failed
    cases written : data.textOf value with
    | some text => simp [written] at failed
    | none =>
        simp only [written, Except.error.injEq] at failed
        subst failed
        exact .longNumber notNull (by simp [isText]) (long.mp written)
  · intro troubled
    cases troubled with
    | notList wantsList => simp [isText] at wantsList
    | longNumber _ _ holdsLong => simp [long.mpr holdsLong]

/-- A setting has texts unless something is wrong with its value. -/
theorem textsOf_eq_error_iff {trouble : Trouble} :
    setting.textsOf data value = .error trouble ↔ Troubled data setting value trouble := by
  by_cases null : value = .null
  · constructor
    · simp [textsOf, null]
    · intro troubled
      cases troubled with
      | notList _ notNull | longNumber notNull => exact absurd null notNull
  · cases kind : setting.isList with
    | false => exact textsOf_text_eq_error_iff kind null
    | true => exact textsOf_list_eq_error_iff kind null

def IsFirstTrouble (data : Yaml.Data) (entries : List (Yaml.Value × Yaml.Value)) (setting : Setting)
    (trouble : Trouble) : Prop :=
  ∃ before after, all = before ++ setting :: after ∧
    Troubled data setting (setting.held entries) trouble ∧
    ∀ earlier ∈ before, ∀ other, ¬Troubled data earlier (earlier.held entries) other

theorem firstTrouble?_eq_some_iff {trouble : Trouble} :
    firstTrouble? data entries = some (setting, trouble) ↔
      IsFirstTrouble data entries setting trouble := by
  simp only [firstTrouble?, List.findSome?_eq_some_iff, Option.map_eq_some_iff,
    Option.map_eq_none_iff, IsFirstTrouble, ← textsOf_eq_error_iff, ← trouble?_eq_some_iff]
  constructor
  · rintro ⟨before, _, after, split, ⟨_, found, isPair⟩, first⟩
    cases isPair
    refine ⟨before, after, split, found, ?_⟩
    intro earlier mem other
    simp [first earlier mem]
  · rintro ⟨before, after, split, found, first⟩
    refine ⟨before, setting, after, split, ⟨trouble, found, rfl⟩, ?_⟩
    intro earlier mem
    exact Option.eq_none_iff_forall_ne_some.mpr (first earlier mem)

end Setting

namespace SiteConfig

variable {root path : Path} {data : Yaml.Data} {entries : List (Yaml.Value × Yaml.Value)}
  {outcome : Except Failure SiteConfig} {disk : Disk}

/-- Whether a document is malformed: it is neither a mapping nor nothing at all, or has a key that
is no setting, or something else than a list or a text where a list is wanted. -/
inductive IsMalformed (data : Yaml.Data) : Prop
  | notMapping (notNull : data.root ≠ .null) (noMapping : ∀ entries, ¬data.IsMapping entries) :
      IsMalformed data
  | unknownKey {entries : List (Yaml.Value × Yaml.Value)} {key value : Yaml.Value}
      (isMapping : data.IsMapping entries) (mem : (key, value) ∈ entries)
      (unknown : ¬Setting.Names key) : IsMalformed data
  | notList {entries : List (Yaml.Value × Yaml.Value)} {setting : Setting}
      (isMapping : data.IsMapping entries) (isList : setting.isList = true)
      (notNull : setting.held entries ≠ .null)
      (noList : ¬data.IsTextOrList (setting.held entries)) : IsMalformed data

/-- Whether the outcome of loading a document from a path tells if it is malformed. -/
structure TellsApart (path : Path) (data : Yaml.Data) (outcome : Except Failure SiteConfig) :
    Prop where
  failed_iff :
    (∃ fault, outcome = .error (.reported (.malformedConfig path fault))) ↔ IsMalformed data
  loaded : ¬IsMalformed data → ∃ config, outcome = .ok config

/-- The configuration of a project without a configuration file. -/
def standard (root : Path) : SiteConfig :=
  Setting.assemble root fun setting => setting.standard.map String.toList

/-- The documents that are not told apart, with what comes of loading them. -/
inductive Slips (root : Path) (data : Yaml.Data) : Except Failure SiteConfig → Prop
  | nothing (isNothing : data.isNothing data.root = true) (notNull : data.root ≠ .null)
      (noMapping : ∀ entries, ¬data.IsMapping entries) : Slips root data (.ok (standard root))
  | untypedKey {entries : List (Yaml.Value × Yaml.Value)} {key value : Yaml.Value}
      (isMapping : data.IsMapping entries) (mem : (key, value) ∈ entries)
      (notText : ∀ text, key ≠ .text text) : Slips root data (.error .untypedKey)
  | longNumber {entries : List (Yaml.Value × Yaml.Value)} {setting : Setting}
      (isMapping : data.IsMapping entries)
      (known : ∀ key value, (key, value) ∈ entries → Setting.Names key)
      (first : Setting.IsFirstTrouble data entries setting .longNumber) :
      Slips root data (.error (.badValue .notNumber))

theorem TellsApart.of_ok {config : SiteConfig} (wellFormed : ¬IsMalformed data) :
    TellsApart path data (.ok config) where
  failed_iff := by simp [wellFormed]
  loaded := fun _ => ⟨config, rfl⟩

theorem TellsApart.of_malformed (malformed : IsMalformed data) (fault : ConfigFault) :
    TellsApart path data (.error (.reported (.malformedConfig path fault))) where
  failed_iff := by simp [malformed]
  loaded := fun wellFormed => absurd malformed wellFormed

theorem config_nil (root path : Path) (data : Yaml.Data) :
    Settings.config root path data [] = .ok (standard root) := by
  simp [Setting.config_eq, Setting.firstTrouble?_nil, standard, Setting.textsOf, Except.toOption]

theorem ofData_of_nothing (root path : Path) (isNothing : data.isNothing data.root = true) :
    Settings.ofData root path data = .ok (standard root) := by
  simp [Settings.ofData, Yaml.Data.entries_of_isNothing isNothing, Settings.unknownKeys?,
    config_nil]

theorem ofData_of_isMapping (root path : Path) (isMapping : data.IsMapping entries)
    (known : ∀ key value, (key, value) ∈ entries → Setting.Names key) :
    Settings.ofData root path data = Settings.config root path data entries := by
  simp [Settings.ofData, isMapping.entries_eq, Setting.unknownKeys?_eq_nil_iff.mpr known]

theorem ofData_of_slips (path : Path) (slips : Slips root data outcome) :
    Settings.ofData root path data = outcome := by
  cases slips with
  | nothing isNothing => exact ofData_of_nothing root path isNothing
  | untypedKey isMapping mem notText =>
      have unknown := unknownKeys?_eq_none_iff.mpr ⟨_, _, mem, notText⟩
      simp [Settings.ofData, isMapping.entries_eq, unknown]
  | longNumber isMapping known first =>
      rw [ofData_of_isMapping root path isMapping known, Setting.config_eq,
        Setting.firstTrouble?_eq_some_iff.mpr first]
      rfl

theorem not_tellsApart_of_slips (slips : Slips root data outcome) :
    ¬TellsApart path data outcome := by
  intro tells
  cases slips with
  | nothing isNothing notNull noMapping =>
      rcases tells.failed_iff.mpr (.notMapping notNull noMapping) with ⟨fault, failed⟩
      cases failed
  | untypedKey isMapping mem notText =>
      have unknown : ¬Setting.Names _ := fun ⟨setting, names⟩ => notText _ names
      rcases tells.failed_iff.mpr (.unknownKey isMapping mem unknown) with ⟨fault, failed⟩
      cases failed
  | longNumber =>
      by_cases malformed : IsMalformed data
      · rcases tells.failed_iff.mpr malformed with ⟨fault, failed⟩
        cases failed
      · rcases tells.loaded malformed with ⟨config, loaded⟩
        cases loaded

/-- A mapping whose keys are settings is malformed if the first trouble is with a list of paths. -/
theorem tellsApart_config (root path : Path) (isMapping : data.IsMapping entries)
    (known : ∀ key value, (key, value) ∈ entries → Setting.Names key)
    (short : ∀ setting, ¬Setting.IsFirstTrouble data entries setting .longNumber) :
    TellsApart path data (Settings.config root path data entries) := by
  rw [Setting.config_eq]
  split
  · rename_i noTrouble
    apply TellsApart.of_ok
    intro malformed
    cases malformed with
    | notMapping _ noMapping => exact noMapping entries isMapping
    | unknownKey also mem unknown =>
        rw [← isMapping.eq also] at mem
        exact unknown (known _ _ mem)
    | @notList _ setting also isList notNull noList =>
        rw [← isMapping.eq also] at notNull noList
        rcases Setting.firstTrouble?_eq_none_iff.mp noTrouble setting with ⟨texts, read⟩
        have failed := Setting.textsOf_eq_error_iff.mpr (.notList isList notNull noList)
        simp [failed] at read
  · rename_i setting trouble found
    have first := Setting.firstTrouble?_eq_some_iff.mp found
    cases trouble with
    | longNumber => exact absurd first (short setting)
    | notList =>
        rcases first with ⟨_, _, _, ⟨isList, notNull, noList⟩, _⟩
        exact .of_malformed (.notList isMapping isList notNull noList) _

theorem tellsApart_of_not_slips (path : Path) (upright : ∀ outcome, ¬Slips root data outcome) :
    TellsApart path data (Settings.ofData root path data) := by
  by_cases mapping : ∃ entries, data.IsMapping entries
  · rcases mapping with ⟨entries, isMapping⟩
    by_cases known : ∀ key value, (key, value) ∈ entries → Setting.Names key
    · rw [ofData_of_isMapping root path isMapping known]
      apply tellsApart_config root path isMapping known
      intro setting first
      exact upright _ (.longNumber isMapping known first)
    -- Some key is no setting: it is reported, unless it cannot even be written as a text.
    · rcases unknown : Settings.unknownKeys? entries with _ | _ | ⟨key, keys⟩
      · rcases unknownKeys?_eq_none_iff.mp unknown with ⟨key, value, mem, notText⟩
        exact absurd (.untypedKey isMapping mem notText) (upright _)
      · exact absurd (Setting.unknownKeys?_eq_nil_iff.mp unknown) known
      · push Not at known
        rcases known with ⟨key, value, mem, unnamed⟩
        simp only [Settings.ofData, isMapping.entries_eq, unknown]
        exact .of_malformed (.unknownKey isMapping mem unnamed) _
  -- No mapping: only the absent value may pass for nothing.
  · have noMapping := not_exists.mp mapping
    by_cases isNothing : data.isNothing data.root = true
    · by_cases null : data.root = .null
      · rw [ofData_of_nothing root path isNothing]
        apply TellsApart.of_ok
        intro malformed
        cases malformed with
        | notMapping notNull => exact notNull null
        | unknownKey isMapping | notList isMapping => exact noMapping _ isMapping
      · exact absurd (.nothing isNothing null noMapping) (upright _)
    · have notNull : data.root ≠ .null := by
        intro null
        simp [null, Yaml.Data.isNothing] at isNothing
      simp only [Settings.ofData, Yaml.Data.entries_of_not_isMapping isNothing noMapping]
      exact .of_malformed (.notMapping notNull noMapping) _

/-- Whether the file at a path can be read, and its text stands for a document. -/
def HoldsDocument (disk : Disk) (path : Path) (data : Yaml.Data) : Prop :=
  ∃ address bytes text, disk.findReadable path = .ok (address, .file bytes) ∧
    Utf8.decode bytes = .ok text ∧ Yaml.Data.ofText (Text.normalizeNewlines text) = .ok data

/-- Loading a configuration from a file that holds a document depends on the document alone. -/
theorem runOn_load_of_holdsDocument (root : Path) (path? : Option Path)
    (holds : HoldsDocument disk (path?.getD (root.child fileName)) data) :
    runOn (load root path?) disk =
      (Settings.ofData root (path?.getD (root.child fileName)) data, disk) := by
  rcases holds with ⟨address, bytes, text, found, decoded, parsed⟩
  rw [runOn_load_of_isFile root rfl (isFile_of_findReadable found rfl),
    runOn_readFile_of_findReadable root found]
  simp [Settings.ofBytes, decoded, parsed]

/-- The outcome of loading a document tells if it is malformed, unless the document is one of those
that slip through. What comes of these is known. -/
theorem tellsApart_iff (root : Path) (path? : Option Path)
    (holds : HoldsDocument disk (path?.getD (root.child fileName)) data) :
    (TellsApart (path?.getD (root.child fileName)) data (runOn (load root path?) disk).1 ↔
        ∀ outcome, ¬Slips root data outcome) ∧
      ∀ outcome, Slips root data outcome → runOn (load root path?) disk = (outcome, disk) := by
  rw [runOn_load_of_holdsDocument root path? holds]
  refine ⟨⟨?_, tellsApart_of_not_slips _⟩, ?_⟩
  · intro tells outcome slips
    rw [ofData_of_slips _ slips] at tells
    exact not_tellsApart_of_slips slips tells
  · intro outcome slips
    rw [ofData_of_slips _ slips]

/-- A project with nothing but a configuration file. -/
def bareRoot : Path :=
  { slashes := 1, names := ["p".toList] }

def bareDisk (text : Text) : Disk where
  entries :=
    [(["p".toList], .directory), (["p".toList, fileName], .file (Utf8.encode text))]

/-- A document that is a list, with nothing in it. -/
def emptyList : Yaml.Data :=
  { root := .collection 0, collections := [(0, .sequence [])] }

theorem emptyList_slips (root : Path) : Slips root emptyList (.ok (standard root)) := by
  refine .nothing rfl (by decide) ?_
  rintro entries ⟨id, isRoot, holds⟩
  cases isRoot
  cases holds

/-- A file that holds an empty list is malformed, and is loaded as if there were no file. -/
theorem emptyList_accepted :
    HoldsDocument (bareDisk "[]\n".toList) (bareRoot.child fileName) emptyList ∧
      IsMalformed emptyList ∧
      runOn (load bareRoot none) (bareDisk "[]\n".toList) =
        (.ok (standard bareRoot), bareDisk "[]\n".toList) ∧
      ¬TellsApart (bareRoot.child fileName) emptyList
        (runOn (load bareRoot none) (bareDisk "[]\n".toList)).1 := by
  have holds : HoldsDocument (bareDisk "[]\n".toList) (bareRoot.child fileName) emptyList := by
    refine ⟨["p".toList, fileName], Utf8.encode "[]\n".toList, "[]\n".toList, ?_, ?_, ?_⟩
    all_goals decide +kernel
  have slips := emptyList_slips bareRoot
  have run : runOn (load bareRoot none) (bareDisk "[]\n".toList) =
      (.ok (standard bareRoot), bareDisk "[]\n".toList) := by
    rw [runOn_load_of_holdsDocument bareRoot none holds]
    rw [ofData_of_slips _ slips]
  refine ⟨holds, ?_, run, ?_⟩
  · cases slips with
    | nothing _ notNull noMapping => exact .notMapping notNull noMapping
  · rw [run]
    exact not_tellsApart_of_slips slips

/-- A document that is a mapping with a number for a key. -/
def numbered : Yaml.Data :=
  { root := .collection 0, collections := [(0, .mapping [(.integer 1, .text ['x'])])] }

/-- The theorem about the documents that are not told apart, where it decides against one. -/
theorem numbered_not_reported :
    HoldsDocument (bareDisk "1: x\n".toList) (bareRoot.child fileName) numbered ∧
      runOn (load bareRoot none) (bareDisk "1: x\n".toList) =
        (.error .untypedKey, bareDisk "1: x\n".toList) ∧
      ¬TellsApart (bareRoot.child fileName) numbered
        (runOn (load bareRoot none) (bareDisk "1: x\n".toList)).1 := by
  have holds : HoldsDocument (bareDisk "1: x\n".toList) (bareRoot.child fileName) numbered := by
    refine ⟨["p".toList, fileName], Utf8.encode "1: x\n".toList, "1: x\n".toList, ?_, ?_, ?_⟩
    all_goals decide +kernel
  have slips : Slips bareRoot numbered (.error .untypedKey) :=
    .untypedKey ⟨0, rfl, rfl⟩ List.mem_cons_self (by simp)
  rcases tellsApart_iff bareRoot none holds with ⟨tells_iff, outcome_of_slips⟩
  exact ⟨holds, outcome_of_slips _ slips, fun tells => tells_iff.mp tells _ slips⟩

end SiteConfig

end ScriptSite
