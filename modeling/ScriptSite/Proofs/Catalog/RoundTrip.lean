import ScriptSite.Proofs.Catalog.Listing

/-!
# Writing catalogs

Entries are written in the usual way: the characters that mean something to markup as entities, tabs
and line ends in attributes as references to their numbers, and so the carriage returns in text.
Whatever gaps stand around the entries, reading the document gives them back (`read_write`).
-/

namespace ScriptSite

open Xml

namespace Catalog

variable {element text : Text} {c : Char} {entry : CatalogEntry} {numbered : Char → Bool}
  {attributes : List (Text × Text)}

/-- The name of the entity that stands for a character that means something to markup. -/
def entityName? (c : Char) : Option Text :=
  if c = '&' then some "amp".toList
  else if c = '<' then some "lt".toList
  else if c = '>' then some "gt".toList
  else if c = '"' then some "quot".toList
  else none

/-- Whether a character in an attribute is written by its number, as it would be read as a space
otherwise. -/
def isNumberedInValue (c : Char) : Bool :=
  c == '\t' || c == '\n' || c == '\r'

/-- Whether a character in a text is written by its number, as it would be read as a newline
otherwise. -/
def isNumberedInText (c : Char) : Bool :=
  c == '\r'

/-- A character as an entity, by its number, or as it is. -/
def writeChar (numbered : Char → Bool) (c : Char) : Text :=
  match entityName? c with
  | some name => '&' :: (name ++ [';'])
  | none => if numbered c then '&' :: '#' :: (Text.ofNat c.toNat ++ [';']) else [c]

def writeText (numbered : Char → Bool) (text : Text) : Text :=
  text.flatMap (writeChar numbered)

def writeAttribute (named : Text × Text) : Text :=
  ' ' :: (named.1 ++ '=' :: '"' :: (writeText isNumberedInValue named.2 ++ ['"']))

/-- The attributes of an entry; an empty tag is left out. -/
def attributesOf (entry : CatalogEntry) : List (Text × Text) :=
  (if entry.tag = [] then [] else [("tag".toList, entry.tag)]) ++ [("name".toList, entry.name)]

def writeEntry (element : Text) (entry : CatalogEntry) : Text :=
  '<' :: (element ++ (attributesOf entry).flatMap writeAttribute ++ '>' ::
    (writeText isNumberedInText entry.description ++ '<' :: '/' :: (element ++ ['>'])))

/-- The document that lists entries, each with a gap behind it. -/
def write (element gap : Text) (pieces : List (CatalogEntry × Text)) : Text :=
  '<' :: (rootName ++ '>' ::
    (gap ++ pieces.flatMap (fun piece => writeEntry element piece.1 ++ piece.2) ++
      '<' :: '/' :: (rootName ++ ['>'])))

/-- Whether all characters of an entry may stand in a document. -/
structure IsAllowedEntry (entry : CatalogEntry) : Prop where
  tag : IsAllowedText entry.tag
  name : IsAllowedText entry.name
  description : IsAllowedText entry.description

/-- Whether only characters that a reader may change are written by their numbers. -/
def NumbersControls (numbered : Char → Bool) : Prop :=
  ∀ c, numbered c = true → c = '\t' ∨ c = '\n' ∨ c = '\r'

theorem numbersControls_value : NumbersControls isNumberedInValue := by
  simp [NumbersControls, isNumberedInValue, or_assoc]

theorem numbersControls_text : NumbersControls isNumberedInText := by
  simp [NumbersControls, isNumberedInText]

/-- A character is written as a reference to it or, if it means nothing there, as it is. -/
theorem writeChar_cases (controls : NumbersControls numbered) (c : Char) :
    (∃ reference, RefersTo reference c ∧ writeChar numbered c = '&' :: reference) ∨
      (c ≠ '&' ∧ c ≠ '<' ∧ c ≠ '>' ∧ c ≠ '"' ∧ numbered c = false ∧
        writeChar numbered c = [c]) := by
  cases found : entityName? c with
  | some name =>
      have known : predefined.lookup name = some c := by
        unfold entityName? at found
        split_ifs at found with isAnd isLess isGreater isQuote
        all_goals
          cases found
          subst c
          decide +kernel
      exact .inl ⟨_, .named known, by rw [writeChar, found]⟩
  | none =>
      cases isNumbered : numbered c with
      | true =>
          refine .inl ⟨'#' :: (Text.ofNat c.toNat ++ [';']), ?_, ?_⟩
          · rcases controls c isNumbered with rfl | rfl | rfl <;>
              exact .decimal (by decide) (List.all_eq_true.mp rfl) rfl rfl
          · rw [writeChar, found]
            simp only [isNumbered, if_true]
      | false =>
          have plain : c ≠ '&' ∧ c ≠ '<' ∧ c ≠ '>' ∧ c ≠ '"' := by
            unfold entityName? at found
            split_ifs at found with isAnd isLess isGreater isQuote
            exact ⟨isAnd, isLess, isGreater, isQuote⟩
          refine .inr ⟨plain.1, plain.2.1, plain.2.2.1, plain.2.2.2, rfl, ?_⟩
          rw [writeChar, found]
          simp only [isNumbered, Bool.false_eq_true, if_false]

/-- No bracket that ends a tag is written as it is. -/
theorem bracket_notMem_writeText (controls : NumbersControls numbered) (text : Text) :
    '>' ∉ writeText numbered text := by
  rw [writeText, List.mem_flatMap]
  rintro ⟨c, _, mem⟩
  rcases writeChar_cases controls c with
    ⟨reference, refers, equal⟩ | ⟨_, _, notBracket, _, _, equal⟩
  · rw [equal, List.mem_cons] at mem
    rcases mem with isAnd | mem
    · exact absurd isAnd (by decide)
    · exact absurd (Scan.isReferenceChar_of_refersTo refers '>' mem) (by decide)
  · rw [equal, List.mem_singleton] at mem
    exact notBracket mem.symm

theorem spellsValue_writeText (allowed : IsAllowedText text) :
    SpellsValue '"' (writeText isNumberedInValue text) text := by
  induction text with
  | nil => exact .nil
  | cons c text ih =>
      rcases List.forall_mem_cons.mp allowed with ⟨allowedFirst, allowedLater⟩
      have later := ih allowedLater
      rw [writeText, List.flatMap_cons, ← writeText]
      rcases writeChar_cases numbersControls_value c with
        ⟨reference, refers, equal⟩ | ⟨notAnd, notLess, _, notQuote, notNumbered, equal⟩
      · rw [equal, List.cons_append]
        exact .reference refers later
      · rw [equal, List.singleton_append]
        by_cases space : c = ' '
        · subst space
          exact .space rfl (fun isReturn => absurd isReturn (by decide)) later
        · have notSpace : isSpace c = false := by
            simp_all [isSpace, isNumberedInValue]
          exact .char allowedFirst ⟨notQuote, notLess, notAnd, notSpace⟩ later

theorem spellsText_writeText (allowed : IsAllowedText text) :
    SpellsText (writeText isNumberedInText text) text := by
  induction text with
  | nil => exact .nil
  | cons c text ih =>
      rcases List.forall_mem_cons.mp allowed with ⟨allowedFirst, allowedLater⟩
      have later := ih allowedLater
      rw [writeText, List.flatMap_cons, ← writeText]
      rcases writeChar_cases numbersControls_text c with
        ⟨reference, refers, equal⟩ | ⟨notAnd, notLess, _, _, notNumbered, equal⟩
      · rw [equal, List.cons_append]
        exact .reference refers later
      · rw [equal, List.singleton_append]
        have notReturn : c ≠ '\r' := by simpa [isNumberedInText] using notNumbered
        have noSectionEnd : ¬[']', '>'] <+: writeText isNumberedInText text := by
          intro begins
          exact bracket_notMem_writeText numbersControls_text text (begins.subset (by simp))
        exact .char allowedFirst ⟨notLess, notAnd, notReturn⟩ (fun _ => noSectionEnd) later

theorem spellsAttributes_write
    (named : ∀ named ∈ attributes, IsName named.1 ∧ IsAllowedText named.2) :
    SpellsAttributes (attributes.flatMap writeAttribute) attributes := by
  induction attributes with
  | nil => exact .nil
  | cons first attributes ih =>
      rcases List.forall_mem_cons.mp named with ⟨⟨isName, allowed⟩, later⟩
      have spells : SpellsAttributes ([' '] ++ (first.1 ++ ([] ++ '=' :: ([] ++ '"' ::
          (writeText isNumberedInValue first.2 ++ '"' :: attributes.flatMap writeAttribute)))))
          (first :: attributes) :=
        .cons (by simp) (by simp [IsSpaces, isSpace]) (.plain isName) .nil .nil (.inl rfl)
          (spellsValue_writeText allowed) (ih later)
      rw [List.flatMap_cons, writeAttribute]
      simpa using spells

theorem attributesOf_eq (entry : CatalogEntry) :
    attributesOf entry = (if entry.tag = [] then [] else [(['t', 'a', 'g'], entry.tag)]) ++
      [(['n', 'a', 'm', 'e'], entry.name)] := by
  rw [attributesOf, String.toList_ofList, String.toList_ofList]

theorem named_attributesOf (allowed : IsAllowedEntry entry) :
    ∀ named ∈ attributesOf entry,
      (IsName named.1 ∧ named.1 ≠ Bindings.bindingLabel) ∧ IsAllowedText named.2 := by
  have isTag : IsName ['t', 'a', 'g'] ∧ ['t', 'a', 'g'] ≠ Bindings.bindingLabel := by decide
  have isName : IsName ['n', 'a', 'm', 'e'] ∧ ['n', 'a', 'm', 'e'] ≠ Bindings.bindingLabel := by
    decide
  rw [attributesOf_eq]
  split
  · simpa using ⟨isName, allowed.name⟩
  · simpa using ⟨⟨isTag, allowed.tag⟩, isName, allowed.name⟩

theorem hasAttributes_attributesOf (entry : CatalogEntry) :
    HasAttributes (attributesOf entry) entry := by
  rw [HasAttributes, attributesOf_eq, String.toList_ofList, String.toList_ofList]
  split
  · rename_i untagged
    exact ⟨rfl, untagged.symm⟩
  · exact ⟨rfl, rfl⟩

/-- The element that stands for an entry while nothing has been read inside of it. -/
def openedEntry (element : Text) (entry : CatalogEntry) : OpenElement :=
  { writtenName := element, name := element, attributes := attributesOf entry
    bindings := Bindings.initial }

theorem spellsTag_entry (isName : IsName element) (allowed : IsAllowedEntry entry) :
    SpellsTag Bindings.initial (element ++ (attributesOf entry).flatMap writeAttribute)
      (openedEntry element entry) := by
  have named := named_attributesOf allowed
  refine spellsTag_of_isName isName (spellsAttributes_write fun first mem => ?_)
    (fun first mem => (named first mem).1) ?_
  · exact ⟨(named first mem).1.1, (named first mem).2⟩
  · rw [attributesOf_eq]
    split <;> simp

theorem isEntry_writeEntry (isName : IsName element) (allowed : IsAllowedEntry entry) :
    IsEntry element entry (writeEntry element entry) := by
  have named : (openedEntry element entry).name = element := rfl
  have isEntry := IsEntry.intro (spellsTag_entry isName allowed) named
    (hasAttributes_attributesOf entry) (spellsText_writeText allowed.description) .nil
  exact isEntry

theorem isContent_writeEntry (isName : IsName element) (allowed : IsAllowedEntry entry) :
    IsContent Bindings.initial [element] (writeEntry element entry) := by
  have inner := IsContent.text (spellsText_writeText allowed.description) (by simp)
    (.nil : IsContent Bindings.initial [] [])
  rw [List.append_nil] at inner
  exact IsContent.element (spellsTag_entry isName allowed) inner IsSpaces.nil .nil

/-- What is nested in an element of another name does not matter. -/
theorem isGap_nested {other inner : Text} {names : List Text} (isName : IsName other)
    (different : element ≠ other) (isContent : IsContent Bindings.initial names inner) :
    IsGap element ('<' :: (other ++ '>' :: (inner ++ '<' :: '/' :: (other ++ ['>'])))) := by
  have spells := spellsTag_of_isName isName .nil (by simp) (by simp)
  rw [List.append_nil] at spells
  have isContentAround := IsContent.element spells isContent IsSpaces.nil .nil
  exact ⟨[other], isContentAround, by simpa using different⟩

theorem isListing_write (isName : IsName element) {gap : Text} (isGap : IsGap element gap)
    {pieces : List (CatalogEntry × Text)} (areGaps : ∀ piece ∈ pieces, IsGap element piece.2)
    (allowed : ∀ piece ∈ pieces, IsAllowedEntry piece.1) :
    IsListing element (pieces.map Prod.fst)
      (gap ++ pieces.flatMap fun piece => writeEntry element piece.1 ++ piece.2) := by
  induction pieces generalizing gap with
  | nil =>
      rw [List.flatMap_nil, List.append_nil]
      exact .gap isGap
  | cons piece pieces ih =>
      rcases List.forall_mem_cons.mp areGaps with ⟨gapBehind, areGapsLater⟩
      rcases List.forall_mem_cons.mp allowed with ⟨allowedFirst, allowedLater⟩
      have later := ih gapBehind areGapsLater allowedLater
      have listing := IsListing.entry isGap (isEntry_writeEntry isName allowedFirst) later
      simpa using listing

/-- Reading the document that lists some entries gives these entries, whatever stands in the gaps
between them. -/
theorem read_write (isName : IsName element) {gap : Text} (isGap : IsGap element gap)
    {pieces : List (CatalogEntry × Text)} (areGaps : ∀ piece ∈ pieces, IsGap element piece.2)
    (allowed : ∀ piece ∈ pieces, IsAllowedEntry piece.1)
    (tagged : ∀ piece ∈ pieces, IsTagged element piece.1) :
    Catalog.readText element (write element gap pieces) = .ok (pieces.map Prod.fst) ∧
      Catalog.readBytes element (Utf8.encode (write element gap pieces)) =
        .ok (pieces.map Prod.fst) := by
  have isCatalog : IsCatalog element (pieces.map Prod.fst) (write element gap pieces) :=
    ⟨_, isListing_write isName isGap areGaps allowed, rfl⟩
  have taggedAll : ∀ entry ∈ pieces.map Prod.fst, IsTagged element entry := by
    simpa using tagged
  exact ⟨readText_of_isCatalog isCatalog taggedAll, readBytes_of_isCatalog isCatalog taggedAll⟩

/-- An example with characters that have to be written as references. -/
def markedEntry : CatalogEntry :=
  ⟨['a', '&', 'b'], ['<', '\n', '"', ' '], ['x', '\r', ']', ']', '>']⟩

/-- A gap with an example nested in an element of another name. -/
def nestingGap : Text :=
  '<' :: (['n', 'o', 't', 'e'] ++ '>' :: (writeEntry exampleElement markedEntry ++ '<' :: '/' ::
    (['n', 'o', 't', 'e'] ++ ['>'])))

theorem isAllowedEntry_markedEntry : IsAllowedEntry markedEntry :=
  ⟨by decide, by decide, by decide⟩

theorem isName_exampleElement : IsName exampleElement := by
  have letters : exampleElement = ['e', 'x', 'a', 'm', 'p', 'l', 'e'] := rfl
  rw [letters]
  decide

theorem isGap_nestingGap : IsGap exampleElement nestingGap :=
  isGap_nested (by decide) (by decide)
    (isContent_writeEntry isName_exampleElement isAllowedEntry_markedEntry)

/-- The example that is nested in the gap is not read. -/
theorem read_write_markedEntry :
    Catalog.readText exampleElement (write exampleElement nestingGap [(markedEntry, nestingGap)]) =
        .ok [markedEntry] ∧
      Catalog.readBytes exampleElement
        (Utf8.encode (write exampleElement nestingGap [(markedEntry, nestingGap)])) =
        .ok [markedEntry] :=
  read_write isName_exampleElement isGap_nestingGap (by simpa using isGap_nestingGap)
    (by simpa using isAllowedEntry_markedEntry) (by simp [IsTagged, markedEntry])

end Catalog

end ScriptSite
