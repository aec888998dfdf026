import ScriptSite.Xml.Lexeme

/-!
# Document types

The declarations in a document type. Those of entities and attributes are kept, the others are only
checked. Of several declarations of one thing the first counts. A reference to declarations outside
of the document is not followed: from there on, declarations are ignored unless the document stands
alone.
-/

namespace ScriptSite.Xml.DocumentType

/-- Reads lexemes off a text. -/
abbrev Reader (α : Type) := Text → Except Stop (α × Text)

/-- The name that comes next, perhaps with a prefix. -/
def qualifiedName (ending : Ending) : Reader Text := fun text => do
  let placed ← nextLexeme ending text
  match placed.lexeme with
  | .name .plain name | .name .prefixed name => return (name, placed.rest)
  | _ => placed.misplaced

/-- The name without a prefix that comes next. -/
def plainName (ending : Ending) : Reader Text := fun text => do
  let placed ← nextLexeme ending text
  match placed.lexeme with
  | .name .plain name => return (name, placed.rest)
  | _ => placed.misplaced

/-- The literal that comes next, with the document from it on. -/
def literal (ending : Ending) : Reader (Text × Text) := fun text => do
  let placed ← nextLexeme ending text
  match placed.lexeme with
  | .literal value => return ((value, placed.start), placed.rest)
  | _ => placed.misplaced

/-- Passes over a bracket that has to come next. -/
def close (ending : Ending) (text : Text) : Except Stop Text := do
  let placed ← nextLexeme ending text
  match placed.lexeme with
  | .punctuation '>' => return placed.rest
  | _ => placed.misplaced

/-- Whether a character can stand in a public identifier. -/
def isPublicChar (c : Char) : Bool :=
  c.isAlphanum || "-'()+,/=?;!*#@$_% \r\n:.".toList.contains c

/-- Passes over a public identifier. -/
def publicIdentifier (ending : Ending) (text : Text) : Except Stop Text := do
  let ((value, start), rest) ← literal ending text
  match value.dropWhile isPublicChar with
  | [] => return rest
  | bad => Stop.atPlace .illegalPublicIdentifier (start.drop (1 + value.length - bad.length))

/-- Where something outside of the document is: passes over the identifiers behind a keyword, if it
is one of the two that announce them. -/
def externalIdentifier? (ending : Ending) (keyword text : Text) : Option (Except Stop Text) :=
  if keyword = "SYSTEM".toList then
    some do
      let (_, rest) ← literal ending text
      return rest
  else if keyword = "PUBLIC".toList then
    some do
      let rest ← publicIdentifier ending text
      let (_, rest) ← literal ending rest
      return rest
  else none

/-- The declarations with an entity, unless it is declared already or declarations are ignored. -/
def addEntity (declarations : Declarations) (name : Text) (entity : Entity) : Declarations :=
  if declarations.isIgnoring ∨ (predefined.lookup name).isSome ∨
      (declarations.entities.lookup name).isSome then
    declarations
  else { declarations with entities := declarations.entities ++ [(name, entity)] }

/-- What an entity is declared to be. Only entities that are no parameters can be unparsed. -/
def entityDefinition (ending : Ending) (declarations : Declarations) (parameter : Bool) :
    Reader Entity := fun text => do
  let placed ← nextLexeme ending text
  match placed.lexeme with
  | .literal value =>
    let behind := placed.start.drop (1 + value.length)
    let text ←
      if declarations.isIgnoring then pure []
      else Stop.startingAt placed.start (entityText behind (value.length + 1) value)
    return ({ text := some text }, ← close ending placed.rest)
  | .name .plain keyword =>
    match externalIdentifier? ending keyword placed.rest with
    | none => placed.misplaced
    | some rest =>
      let placed ← nextLexeme ending (← rest)
      match placed.lexeme with
      | .punctuation '>' => return ({}, placed.rest)
      | .name .plain keyword =>
        if parameter ∨ keyword ≠ "NDATA".toList then placed.misplaced
        else
          let (_, rest) ← plainName ending placed.rest
          return ({ unparsed := true }, ← close ending rest)
      | _ => placed.misplaced
  | _ => placed.misplaced

/-- The declaration of an entity, behind its keyword. -/
def entity (ending : Ending) (declarations : Declarations) : Reader Declarations := fun text => do
  let placed ← nextLexeme ending text
  match placed.lexeme with
  | .percent =>
    let (_, rest) ← plainName ending placed.rest
    let (_, rest) ← entityDefinition ending declarations true rest
    return (declarations, rest)
  | .name .plain name =>
    let (entity, rest) ← entityDefinition ending declarations false placed.rest
    return (addEntity declarations name entity, rest)
  | _ => placed.misplaced

/-- Passes over the declaration of a notation, behind its keyword. -/
def notationDeclaration (ending : Ending) (text : Text) : Except Stop Text := do
  let (_, rest) ← plainName ending text
  let placed ← nextLexeme ending rest
  match placed.lexeme with
  | .name .plain keyword =>
    if keyword = "SYSTEM".toList then
      let (_, rest) ← literal ending placed.rest
      close ending rest
    else if keyword = "PUBLIC".toList then
      let rest ← publicIdentifier ending placed.rest
      let placed ← nextLexeme ending rest
      match placed.lexeme with
      | .punctuation '>' => return placed.rest
      | .literal _ => close ending placed.rest
      | _ => placed.misplaced
    else placed.misplaced
  | _ => placed.misplaced

/-- Passes over the names behind the first parenthesis of a list of values. `names` tells whether
they have to be names. -/
def valueList (ending : Ending) (names : Bool) : (steps : Nat) → Text → Except Stop Text
  | 0, _ => Stop.here .misplaced
  | steps + 1, text => do
    let placed ← nextLexeme ending text
    match placed.lexeme with
    | .name kind _ =>
      if names ∧ kind ≠ .plain then placed.misplaced
      else
        let placed ← nextLexeme ending placed.rest
        match placed.lexeme with
        | .closeGroup none => return placed.rest
        | .punctuation '|' => valueList ending names steps placed.rest
        | _ => placed.misplaced
    | _ => placed.misplaced

/-- The types of attributes that have a name, apart from notations. -/
def attributeTypes : List Text :=
  ["CDATA", "ID", "IDREF", "IDREFS", "ENTITY", "ENTITIES", "NMTOKEN", "NMTOKENS"].map String.toList

/-- The type of an attribute: whether its values are plain text. -/
def attributeType (ending : Ending) : Reader Bool := fun text => do
  let placed ← nextLexeme ending text
  match placed.lexeme with
  | .punctuation '(' =>
    return (false, ← valueList ending false placed.rest.length placed.rest)
  | .name .plain keyword =>
    if keyword ∈ attributeTypes then return (keyword = "CDATA".toList, placed.rest)
    else if keyword = "NOTATION".toList then
      let placed ← nextLexeme ending placed.rest
      match placed.lexeme with
      | .punctuation '(' => return (false, ← valueList ending true placed.rest.length placed.rest)
      | _ => placed.misplaced
    else placed.misplaced
  | _ => placed.misplaced

/-- The default of an attribute, read off a literal. -/
def defaultText (declarations : Declarations) (isPlain : Bool) (budget : Nat)
    (value start : Text) : Except Stop (Option Text) :=
  if declarations.isIgnoring then .ok none
  else Stop.startingAt start do
    let (value, _) ← attributeText declarations isPlain { budget } value
      (start.drop (1 + value.length))
    return some value

def attributeDefault (ending : Ending) (declarations : Declarations) (isPlain : Bool)
    (budget : Nat) :
    Reader (Option Text) := fun text => do
  let placed ← nextLexeme ending text
  match placed.lexeme with
  | .literal value =>
    return (← defaultText declarations isPlain budget value placed.start, placed.rest)
  | .poundName keyword =>
    if keyword = "IMPLIED".toList ∨ keyword = "REQUIRED".toList then return (none, placed.rest)
    else if keyword = "FIXED".toList then
      let ((value, start), rest) ← literal ending placed.rest
      return (← defaultText declarations isPlain budget value start, rest)
    else placed.misplaced
  | _ => placed.misplaced

/-- The declarations with one of an attribute, unless it has been declared or declarations are
ignored. -/
def addAttribute (declarations : Declarations) (declared : AttributeDeclaration) : Declarations :=
  if declarations.isIgnoring ∨ (declarations.attribute? declared.element declared.name).isSome then
    declarations
  else { declarations with attributes := declarations.attributes ++ [declared] }

/-- The declarations of the attributes of an element, behind its name. -/
def attributeList (ending : Ending) (element : Text) (budget : Nat) :
    (steps : Nat) → Declarations → Reader Declarations
  | 0, _ => fun _ => Stop.here .misplaced
  | steps + 1, declarations => fun text => do
    let placed ← nextLexeme ending text
    match placed.lexeme with
    | .punctuation '>' => return (declarations, placed.rest)
    | .name .plain name | .name .prefixed name =>
      let (isPlain, rest) ← attributeType ending placed.rest
      let (default, rest) ← attributeDefault ending declarations isPlain budget rest
      attributeList ending element budget steps
        (addAttribute declarations { element, name, isPlain, default }) rest
    | _ => placed.misplaced

/-- Passes over a content model that begins with characters, behind their keyword: nothing but a
closing parenthesis, or names between bars and a mark at the end. -/
def mixedModel (ending : Ending) (first : Bool) : (steps : Nat) → Text → Except Stop Text
  | 0, _ => Stop.here .misplaced
  | steps + 1, text => do
    let placed ← nextLexeme ending text
    match placed.lexeme with
    | .closeGroup (some '*') => close ending placed.rest
    | .closeGroup none => if first then close ending placed.rest else placed.misplaced
    | .punctuation '|' =>
      let (_, rest) ← qualifiedName ending placed.rest
      mixedModel ending false steps rest
    | _ => placed.misplaced

/-- Passes over a content model of elements. `groups` holds the separator that each open group has
shown, the innermost first; `item` tells whether an item comes next. -/
def elementModel (ending : Ending) :
    (steps : Nat) → (groups : List (Option Char)) → (item : Bool) → Text → Except Stop Text
  | 0, _, _, _ => Stop.here .misplaced
  | steps + 1, groups, item, text => do
    let placed ← nextLexeme ending text
    match item, placed.lexeme, groups with
    | true, .punctuation '(', groups => elementModel ending steps (none :: groups) true placed.rest
    | true, .name .plain _, groups | true, .name .prefixed _, groups
    | true, .markedName _, groups => elementModel ending steps groups false placed.rest
    | false, .closeGroup _, [_] => close ending placed.rest
    | false, .closeGroup _, _ :: outer => elementModel ending steps outer false placed.rest
    | false, .punctuation c, separator :: outer =>
      if (c = ',' ∨ c = '|') ∧ (separator = none ∨ separator = some c) then
        elementModel ending steps (some c :: outer) true placed.rest
      else placed.misplaced
    | _, _, _ => placed.misplaced

/-- Passes over the declaration of an element, behind its keyword. -/
def elementDeclaration (ending : Ending) (text : Text) : Except Stop Text := do
  let (_, rest) ← qualifiedName ending text
  let placed ← nextLexeme ending rest
  match placed.lexeme with
  | .name .plain keyword =>
    if keyword = "EMPTY".toList ∨ keyword = "ANY".toList then close ending placed.rest
    else placed.misplaced
  | .punctuation '(' =>
    let inside ← nextLexeme ending placed.rest
    match inside.lexeme with
    | .poundName keyword =>
      if keyword = "PCDATA".toList then mixedModel ending true inside.rest.length inside.rest
      else inside.misplaced
    | _ => elementModel ending placed.rest.length [none] true placed.rest
  | _ => placed.misplaced

/-- The declarations between the brackets of a document type, behind the first. -/
def subset (ending : Ending) (budget : Nat) : (steps : Nat) → Declarations → Reader Declarations
  | 0, _ => fun _ => Stop.here .misplaced
  | steps + 1, declarations => fun text => do
    let placed ← nextLexeme ending text
    match placed.lexeme with
    | .punctuation ']' => return (declarations, placed.rest)
    | .instruction | .comment => subset ending budget steps declarations placed.rest
    | .parameterReference =>
      subset ending budget steps
        { declarations with isIncomplete := true, isIgnoring := !declarations.standsAlone }
        placed.rest
    | .declare keyword =>
      if keyword = "ENTITY".toList then
        let (declarations, rest) ← entity ending declarations placed.rest
        subset ending budget steps declarations rest
      else if keyword = "ATTLIST".toList then
        let (element, rest) ← qualifiedName ending placed.rest
        let (declarations, rest) ← attributeList ending element budget rest.length declarations rest
        subset ending budget steps declarations rest
      else if keyword = "ELEMENT".toList then
        subset ending budget steps declarations (← elementDeclaration ending placed.rest)
      else if keyword = "NOTATION".toList then
        subset ending budget steps declarations (← notationDeclaration ending placed.rest)
      else placed.misplaced
    | _ => placed.misplaced

/-- What follows the name of a document type and the place of further declarations: declarations in
brackets, or the end. -/
def body (ending : Ending) (budget : Nat) (declarations : Declarations) (placed : PlacedLexeme) :
    Except Stop (Declarations × Text) := do
  match placed.lexeme with
  | .punctuation '>' => return (declarations, placed.rest)
  | .punctuation '[' =>
    let (declarations, rest) ← subset ending budget placed.rest.length declarations placed.rest
    return (declarations, ← close ending rest)
  | _ => placed.misplaced

/-- A document type, behind its keyword. -/
def read (ending : Ending) (budget : Nat) (declarations : Declarations) : Reader Declarations :=
  fun text => do
    let (_, rest) ← qualifiedName ending text
    let placed ← nextLexeme ending rest
    match placed.lexeme with
    | .name .plain keyword =>
      match externalIdentifier? ending keyword placed.rest with
      | none => placed.misplaced
      | some rest =>
        body ending budget { declarations with isIncomplete := true } (← nextLexeme ending (← rest))
    | _ => body ending budget declarations placed

end ScriptSite.Xml.DocumentType
