import ScriptSite.Xml.Entity
import ScriptSite.Xml.Lexeme
import ScriptSite.Xml.Namespace

/-!
# Elements

Elements are read with a stack of those that are open. Text, character data and the texts of
entities run together; comments and instructions leave nothing behind. The text of an entity has to
close every element that it opens, and no other.
-/

namespace ScriptSite.Xml

/-- A node of a document. Attributes come with their full names. -/
inductive Node
  | text (text : Text)
  | element (name : Text) (attributes : List (Text × Text)) (children : List Node)

/-- An element that is open. -/
structure OpenElement where
  /-- The name as it is written, which the end tag has to repeat. -/
  writtenName : Text
  name : Text
  attributes : List (Text × Text)
  /-- What has been read inside, in reverse order. -/
  children : List Node := []
  /-- The bindings of prefixes inside. -/
  bindings : Bindings

/-- What has been read: the open elements, the innermost first, and the text since the last tag in
reverse order. -/
structure Progress where
  opened : List OpenElement := []
  pending : Text := []
  expansion : Expansion

namespace Progress

/-- One more character of text. -/
def addChar (progress : Progress) (c : Char) : Progress :=
  { progress with pending := c :: progress.pending }

/-- The children of the innermost open element with the pending text. -/
def flushed (progress : Progress) (children : List Node) : List Node :=
  if progress.pending.isEmpty then children else .text progress.pending.reverse :: children

/-- One more open element. -/
def push (progress : Progress) (element : OpenElement) : Progress :=
  match progress.opened with
  | [] => { progress with opened := [element], pending := [] }
  | parent :: outer =>
    { progress with
      opened := element :: { parent with children := progress.flushed parent.children } :: outer
      pending := [] }

/-- One more node in the innermost open element. -/
def addNode (progress : Progress) (node : Node) : Progress :=
  match progress.opened with
  | [] => progress
  | element :: outer =>
    { progress with
      opened := { element with children := node :: progress.flushed element.children } :: outer
      pending := [] }

/-- The bindings that hold inside the innermost open element. -/
def bindings (progress : Progress) : Bindings :=
  match progress.opened with
  | [] => Bindings.initial
  | element :: _ => element.bindings

end Progress

/-- The attributes of a tag on the way from their written to their full names. -/
structure TagProgress where
  seen : List Text := []
  /-- The attributes that bind no prefix, in reverse order. -/
  attributes : List (Text × Text) := []
  bindings : Bindings
  expansion : Expansion

/-- Adds an attribute with its value: it binds a prefix or is kept. -/
def TagProgress.add (tag : TagProgress) (name value : Text) : Except Stop TagProgress :=
  match Bindings.bound? name with
  | some label =>
    match tag.bindings.bind label value with
    | .ok bindings => .ok { tag with seen := name :: tag.seen, bindings }
    | .error fault => Stop.here fault
  | none =>
    .ok { tag with seen := name :: tag.seen, attributes := (name, value) :: tag.attributes }

def addWritten (declarations : Declarations) (element : Text) (tag : TagProgress)
    (written : Scan.Attribute) : Except Stop TagProgress :=
  if written.name ∈ tag.seen then Stop.atPlace .duplicateAttribute written.start
  else do
    let isPlain := ((declarations.attribute? element written.name).map (·.isPlain)).getD true
    let (value, expansion) ← attributeText declarations isPlain tag.expansion written.value
      written.behind
    { tag with expansion }.add written.name value

/-- Adds the default of a declared attribute, unless the tag has the attribute. -/
def addDefault (tag : TagProgress) (declared : AttributeDeclaration) : Except Stop TagProgress :=
  match declared.default with
  | some value => if declared.name ∈ tag.seen then .ok tag else tag.add declared.name value
  | none => .ok tag

/-- The attributes of a tag with their full names, of which no two may be equal. -/
def nameAttributes (bindings : Bindings) :
    (names : List Text) → List (Text × Text) → Except Stop (List (Text × Text))
  | _, [] => .ok []
  | names, (name, value) :: rest =>
    match bindings.attributeName name with
    | .error fault => Stop.here fault
    | .ok full =>
      if full ∈ names then Stop.here .duplicateAttribute
      else do return (full, value) :: (← nameAttributes bindings (full :: names) rest)

/-- The element that a start tag opens. -/
def openElement (declarations : Declarations) (bindings : Bindings) (expansion : Expansion)
    (name : Text) (attributes : List Scan.Attribute) : Except Stop (OpenElement × Expansion) := do
  let tag ← attributes.foldlM (addWritten declarations name) { bindings, expansion }
  let tag ← (declarations.attributes.filter (·.element = name)).foldlM addDefault tag
  let attributes ← nameAttributes tag.bindings [] tag.attributes.reverse
  match tag.bindings.elementName name with
  | .error fault => Stop.here fault
  | .ok full =>
    return ({ writtenName := name, name := full, attributes, bindings := tag.bindings },
      tag.expansion)

/-- What reading content comes to: the end of the text with elements open, or the end of the root
element with the document behind it. -/
inductive Outcome
  | open (progress : Progress)
  | closed (root : Node) (rest : Text)

/-- Closes the innermost open element, the name of which has to be the one at `place`; `base`
elements stay open. -/
def closeElement (base : Nat) (progress : Progress) (name place : Text) :
    Except Stop (Progress ⊕ Node) :=
  match progress.opened with
  | [] => Stop.here .asynchronousEntity
  | element :: outer =>
    if outer.length < base then Stop.here .asynchronousEntity
    else if element.writtenName ≠ name then Stop.atPlace .mismatchedTag place
    else
      let node := Node.element element.name element.attributes
        (progress.flushed element.children).reverse
      if outer.isEmpty then .ok (.inr node)
      else .ok (.inl ({ progress with opened := outer, pending := [] }.addNode node))

/-- What a text gives that ends where content could go on. -/
def contentEnd (ending : Ending) (base : Nat) (progress : Progress) (place : Text) :
    Except Stop Outcome :=
  if ending ≠ .complete then endStop ending .noElement
  else if base = 0 then Stop.atPlace .noElement place
  else if progress.opened.length ≠ base then Stop.here .asynchronousEntity
  else .ok (.open progress)

/-- Reads a section of character data, up to the brackets that end it. -/
def dataSection (ending : Ending) (progress : Progress) : Text → Except Stop (Progress × Text)
  | [] => endStop ending .unclosedSection
  | ']' :: ']' :: '>' :: rest => .ok (progress, rest)
  | '\r' :: '\n' :: rest => dataSection ending (progress.addChar '\n') rest
  | c :: rest =>
    if ending = .complete ∧ (c :: rest = [']'] ∨ c :: rest = [']', ']'] ∨ c :: rest = ['\r']) then
      Stop.atPlace .unclosedSection (c :: rest)
    else if c = '\r' then dataSection ending (progress.addChar '\n') rest
    else if isAllowed c then dataSection ending (progress.addChar c) rest
    else Stop.atPlace .invalidToken (c :: rest)

/-- Reads content until its text ends or the root element is closed. `base` elements are open
outside of the text, and `expand` reads the text of an entity. -/
def content (ending : Ending) (declarations : Declarations) (base : Nat)
    (expand : Text → Text → Progress → Except Stop Progress) :
    (steps : Nat) → Progress → Text → Except Stop Outcome
  | 0, progress, text => contentEnd ending base progress text
  | _ + 1, progress, [] => contentEnd ending base progress []
  | steps + 1, progress, c :: rest =>
    let next := content ending declarations base expand steps
    let here := c :: rest
    match c, rest with
    | '<', rest =>
      match Scan.markup rest with
      | .error halt => haltStop ending here halt
      | .ok (.startTag name attributes closed, after) => do
        let (element, expansion) ← Stop.startingAt here (openElement declarations progress.bindings
          progress.expansion name attributes)
        let inside := { progress.push element with expansion }
        if closed then
          match ← closeElement 0 inside name here with
          | .inl progress => next progress after
          | .inr root => return .closed root after
        else next inside after
      | .ok (.endTag name, after) => do
        match ← Stop.startingAt here (closeElement base progress name (rest.drop 1)) with
        | .inl progress => next progress after
        | .inr root => return .closed root after
      | .ok (.declaration, _) => Stop.atPlace .misplacedDeclaration here
      | .ok (.dataSection, after) => do
        let (progress, after) ← dataSection ending progress after
        next progress after
      | .ok (.comment, after) | .ok (.instruction, after) => next progress after
    | '&', rest =>
      match Scan.reference rest with
      | .error halt => haltStop ending here halt
      | .ok (.character none, _) => Stop.atPlace .badCharacterNumber here
      | .ok (.character (some d), after) => next (progress.addChar d) after
      | .ok (.entity name, after) =>
        match declarations.referent progress.expansion.opened name with
        | .undefined => Stop.atPlace .undefinedEntity here
        | .unknown | .external => Stop.atPlace (.skippedEntity name) here
        | .opened => Stop.atPlace .recursiveEntity here
        | .unparsed => Stop.atPlace .binaryEntity here
        | .character d => next (progress.addChar d) after
        | .text text => do
          next (← Stop.startingAt here (expand name text progress)) after
    | '\r', [] => if ending = .complete then contentEnd ending base (progress.addChar '\n') here
      else next (progress.addChar '\n') []
    | '\r', '\n' :: after => next (progress.addChar '\n') after
    | '\r', after => next (progress.addChar '\n') after
    | ']', ']' :: '>' :: after => Stop.atPlace .invalidToken ('>' :: after)
    | c, after =>
      if isAllowed c then next (progress.addChar c) after else Stop.atPlace .invalidToken here

/-- Reads the text of an entity, and the texts of entities up to `depth` inside each other. -/
def expandContent (declarations : Declarations) :
    (depth : Nat) → Text → Text → Progress → Except Stop Progress
  | 0, _, _, _ => Stop.here .recursiveEntity
  | depth + 1, name, text, progress => Stop.withoutPlace do
    let expansion ← progress.expansion.enter name text
    match ← content .complete declarations progress.opened.length (expandContent declarations depth)
      (text.length + 1) { progress with expansion } text with
    | .open inside =>
      return { inside with
        expansion := { inside.expansion with opened := progress.expansion.opened } }
    | .closed _ _ => Stop.here .asynchronousEntity

def rootElement (ending : Ending) (declarations : Declarations) (budget : Nat) (text : Text) :
    Except Stop (Node × Text) := do
  match ← content ending declarations 0
    (expandContent declarations (declarations.entities.length + 1)) (text.length + 1)
    { expansion := { budget } } text with
  | .closed root rest => return (root, rest)
  | .open _ => endStop ending .noElement

end ScriptSite.Xml
