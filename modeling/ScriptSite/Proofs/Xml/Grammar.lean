import Mathlib.Data.List.Forall2
import ScriptSite.Xml.Element

/-!
# What content is made of

A grammar of what may stand inside an element of a document without entities of its own: names,
references, the values of attributes, text, comments, instructions, sections of character data, and
elements in elements. It follows the standard and not the reader, and says of each piece what it
means as far as that matters: the character behind a reference, the text that is spelled, the
attributes of a tag, and the full names of the elements that stand side by side.
-/

namespace ScriptSite.Xml

/-- Whether a text is a name without a colon. -/
inductive IsName : Text → Prop
  | intro {c : Char} {rest : Text} (begins : isNameStart c = true)
      (goesOn : ∀ d ∈ rest, isNameChar d = true) : IsName (c :: rest)

theorem isName_cons_iff {c : Char} {rest : Text} :
    IsName (c :: rest) ↔ (isNameStart c && rest.all isNameChar) = true := by
  rw [Bool.and_eq_true, List.all_eq_true]
  exact ⟨fun | .intro begins goesOn => ⟨begins, goesOn⟩, fun h => .intro h.1 h.2⟩

instance : DecidablePred IsName
  | [] => .isFalse nofun
  | _ :: _ => decidable_of_iff _ isName_cons_iff.symm

/-- Whether a text is a name with a colon at most, and then with a name on either side of it. -/
inductive IsQualifiedName : Text → Prop
  | plain {name : Text} (isName : IsName name) : IsQualifiedName name
  | prefixed {label localPart : Text} (isLabel : IsName label) (isName : IsName localPart) :
      IsQualifiedName (label ++ ':' :: localPart)

/-- Whether a text is made of the characters that separate the parts of a tag. -/
def IsSpaces (text : Text) : Prop :=
  ∀ c ∈ text, isSpace c = true

/-- The value of a digit; letters stand for ten and more. -/
def digitValue (c : Char) : Nat :=
  if c.isDigit then c.toNat - '0'.toNat else (c.toNat - 'A'.toNat) % 32 + 10

/-- The number that digits spell. -/
def digitsValue (base : Nat) (digits : Text) : Nat :=
  digits.foldl (fun n c => n * base + digitValue c) 0

/-- Whether a text is what stands behind the ampersand of a reference to a character. -/
inductive RefersTo : Text → Char → Prop
  | named {name : Text} {c : Char} (known : predefined.lookup name = some c) :
      RefersTo (name ++ [';']) c
  | decimal {digits : Text} {c : Char} (nonempty : digits ≠ [])
      (areDigits : ∀ d ∈ digits, d.isDigit = true) (isNumber : digitsValue 10 digits = c.toNat)
      (allowed : isAllowed c = true) : RefersTo ('#' :: (digits ++ [';'])) c
  | hexadecimal {digits : Text} {c : Char} (nonempty : digits ≠ [])
      (areDigits : ∀ d ∈ digits, Scan.isHexDigit d = true)
      (isNumber : digitsValue 16 digits = c.toNat) (allowed : isAllowed c = true) :
      RefersTo ('#' :: 'x' :: (digits ++ [';'])) c

/-- Whether the first text, between quotes, is a way to write the second as the value of an
attribute. A tab or a line end in the first stands for a space. -/
inductive SpellsValue (quote : Char) : Text → Text → Prop
  | nil : SpellsValue quote [] []
  | char {c : Char} {written value : Text} (allowed : isAllowed c = true)
      (inside : c ≠ quote ∧ c ≠ '<' ∧ c ≠ '&' ∧ isSpace c = false)
      (spells : SpellsValue quote written value) : SpellsValue quote (c :: written) (c :: value)
  | space {c : Char} {written value : Text} (space : isSpace c = true)
      (alone : c = '\r' → written.head? ≠ some '\n') (spells : SpellsValue quote written value) :
      SpellsValue quote (c :: written) (' ' :: value)
  | lineEnd {written value : Text} (spells : SpellsValue quote written value) :
      SpellsValue quote ('\r' :: '\n' :: written) (' ' :: value)
  | reference {reference written value : Text} {c : Char} (refers : RefersTo reference c)
      (spells : SpellsValue quote written value) :
      SpellsValue quote ('&' :: (reference ++ written)) (c :: value)

/-- Whether the first text is a way to write the second between tags. -/
inductive SpellsText : Text → Text → Prop
  | nil : SpellsText [] []
  | char {c : Char} {written text : Text} (allowed : isAllowed c = true)
      (inside : c ≠ '<' ∧ c ≠ '&' ∧ c ≠ '\r')
      (noSectionEnd : c = ']' → ¬[']', '>'] <+: written) (spells : SpellsText written text) :
      SpellsText (c :: written) (c :: text)
  | lineReturn {written text : Text} (alone : written.head? ≠ some '\n')
      (spells : SpellsText written text) : SpellsText ('\r' :: written) ('\n' :: text)
  | lineEnd {written text : Text} (spells : SpellsText written text) :
      SpellsText ('\r' :: '\n' :: written) ('\n' :: text)
  | reference {reference written text : Text} {c : Char} (refers : RefersTo reference c)
      (spells : SpellsText written text) : SpellsText ('&' :: (reference ++ written)) (c :: text)

/-- Whether a character may stand around the value of an attribute. -/
def IsQuote (quote : Char) : Prop :=
  quote = '"' ∨ quote = '\''

/-- Whether a text writes attributes, each behind blanks, as names and values. -/
inductive SpellsAttributes : Text → List (Text × Text) → Prop
  | nil : SpellsAttributes [] []
  | cons {blanks before behind name value written rest : Text} {quote : Char}
      {attributes : List (Text × Text)} (apart : blanks ≠ []) (blank : IsSpaces blanks)
      (isName : IsQualifiedName name) (blankBefore : IsSpaces before)
      (blankBehind : IsSpaces behind) (isQuote : IsQuote quote)
      (spells : SpellsValue quote written value) (others : SpellsAttributes rest attributes) :
      SpellsAttributes
        (blanks ++ (name ++ (before ++ '=' :: (behind ++ quote :: (written ++ quote :: rest)))))
        ((name, value) :: attributes)

/-- The bindings inside a tag, given those outside and its attributes, and the attributes that bind
no prefix. -/
inductive Scope : Bindings → List (Text × Text) → Bindings → List (Text × Text) → Prop
  | nil (bindings : Bindings) : Scope bindings [] bindings []
  | bind {outside between inside : Bindings} {name label value : Text}
      {rest kept : List (Text × Text)} (binds : Bindings.bound? name = some label)
      (bound : outside.bind label value = .ok between) (scope : Scope between rest inside kept) :
      Scope outside ((name, value) :: rest) inside kept
  | keep {outside inside : Bindings} {name value : Text} {rest kept : List (Text × Text)}
      (free : Bindings.bound? name = none) (scope : Scope outside rest inside kept) :
      Scope outside ((name, value) :: rest) inside ((name, value) :: kept)

/-- Whether a tag with the given attributes opens an element: no attribute comes twice, and every
prefix is bound. -/
structure Opens (outside : Bindings) (attributes : List (Text × Text)) (element : OpenElement) :
    Prop where
  nodup_written : (attributes.map Prod.fst).Nodup
  named : ∃ kept, Scope outside attributes element.bindings kept ∧
    List.Forall₂ (fun written full : Text × Text =>
      element.bindings.attributeName written.1 = .ok full.1 ∧ written.2 = full.2)
      kept element.attributes
  nodup : (element.attributes.map Prod.fst).Nodup
  name_eq : element.bindings.elementName element.writtenName = .ok element.name
  children_eq : element.children = []

/-- Whether a text is what a tag that opens an element holds between its brackets. -/
inductive SpellsTag (outside : Bindings) : Text → OpenElement → Prop
  | intro {written blanks : Text} {attributes : List (Text × Text)} {element : OpenElement}
      (isName : IsQualifiedName element.writtenName) (spells : SpellsAttributes written attributes)
      (blank : IsSpaces blanks) (opens : Opens outside attributes element) :
      SpellsTag outside (element.writtenName ++ (written ++ blanks)) element

/-- Whether all characters of a text may stand in a document. -/
def IsAllowedText (text : Text) : Prop :=
  ∀ c ∈ text, isAllowed c = true

instance : DecidablePred IsAllowedText := fun text =>
  decidable_of_iff (text.all isAllowed = true) List.all_eq_true

/-- Whether a text is what an element may hold, given the bindings inside of it; the list holds the
full names of the elements that stand in it side by side. -/
inductive IsContent : Bindings → List Text → Text → Prop
  | nil {bindings : Bindings} : IsContent bindings [] []
  | text {bindings : Bindings} {names : List Text} {written text rest : Text}
      (spells : SpellsText written text) (apart : ∀ c ∈ rest.head?, c = '<')
      (content : IsContent bindings names rest) : IsContent bindings names (written ++ rest)
  | comment {bindings : Bindings} {names : List Text} {body rest : Text}
      (allowed : IsAllowedText body) (single : ¬['-', '-'] <:+: body ++ ['-'])
      (content : IsContent bindings names rest) :
      IsContent bindings names ('<' :: '!' :: '-' :: '-' :: (body ++ '-' :: '-' :: '>' :: rest))
  | instruction {bindings : Bindings} {names : List Text} {target body rest : Text}
      (isName : IsName target) (free : target.map Char.toLower ≠ ['x', 'm', 'l'])
      (apart : ∀ c ∈ body.head?, isSpace c = true) (allowed : IsAllowedText body)
      (unended : ¬['?', '>'] <:+: body) (content : IsContent bindings names rest) :
      IsContent bindings names ('<' :: '?' :: (target ++ (body ++ '?' :: '>' :: rest)))
  | dataSection {bindings : Bindings} {names : List Text} {body rest : Text}
      (allowed : IsAllowedText body) (unended : ¬[']', ']', '>'] <:+: body)
      (content : IsContent bindings names rest) :
      IsContent bindings names
        ('<' :: '!' :: '[' :: 'C' :: 'D' :: 'A' :: 'T' :: 'A' :: '[' ::
          (body ++ ']' :: ']' :: '>' :: rest))
  | emptyElement {bindings : Bindings} {names : List Text} {tag rest : Text} {element : OpenElement}
      (spells : SpellsTag bindings tag element) (content : IsContent bindings names rest) :
      IsContent bindings (element.name :: names) ('<' :: (tag ++ '/' :: '>' :: rest))
  | element {bindings : Bindings} {names inside : List Text} {tag inner blanks rest : Text}
      {element : OpenElement} (spells : SpellsTag bindings tag element)
      (innerContent : IsContent element.bindings inside inner) (blank : IsSpaces blanks)
      (content : IsContent bindings names rest) :
      IsContent bindings (element.name :: names)
        ('<' :: (tag ++ '>' :: (inner ++ '<' :: '/' ::
          (element.writtenName ++ (blanks ++ '>' :: rest)))))

end ScriptSite.Xml
