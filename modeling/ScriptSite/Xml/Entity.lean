import ScriptSite.Xml.Fault
import ScriptSite.Xml.Scan

/-!
# Entities and the values of attributes

A document type declares entities and the attributes of elements. The value of an attribute is
normalised: line ends and tabs become spaces, and references are replaced by what they stand for.
The text of an entity is read in the same way and may refer to further entities, but never to one
that is being read already.
-/

namespace ScriptSite.Xml

/-- Why reading stops. Without a place, it is where the piece of the document begins that is being
read; otherwise it is given as the rest of the document. -/
structure Stop where
  fault : Fault
  place : Option Text := none
  deriving DecidableEq, Repr

namespace Stop

/-- Stops at a place. -/
def atPlace {α : Type} (fault : Fault) (place : Text) : Except Stop α :=
  .error ⟨fault, some place⟩

/-- Stops at the beginning of the piece that is being read. -/
def here {α : Type} (fault : Fault) : Except Stop α :=
  .error ⟨fault, none⟩

/-- A result of which a stop without a place is at `start`. -/
def startingAt {α : Type} (start : Text) : Except Stop α → Except Stop α
  | .error ⟨fault, none⟩ => .error ⟨fault, some start⟩
  | result => result

/-- A result of which every stop has lost its place, because it lies in the text of an entity. -/
def withoutPlace {α : Type} : Except Stop α → Except Stop α
  | .error stop => .error ⟨stop.fault, none⟩
  | result => result

end Stop

/-- An entity with its text, unless that is not in the document. Unparsed entities are no text. -/
structure Entity where
  text : Option Text := none
  unparsed : Bool := false
  deriving DecidableEq, Repr

/-- What is declared about an attribute. The values of attributes that are no plain text are
trimmed, with single spaces inside. -/
structure AttributeDeclaration where
  element : Text
  name : Text
  isPlain : Bool
  default : Option Text
  deriving DecidableEq, Repr

/-- What a document type declares. It is incomplete if there are declarations outside of the
document, unless the document says that it stands alone; after such declarations may have been left
out, further ones are ignored. -/
structure Declarations where
  entities : List (Text × Entity) := []
  attributes : List AttributeDeclaration := []
  isIncomplete : Bool := false
  standsAlone : Bool := false
  isIgnoring : Bool := false
  deriving DecidableEq, Repr

namespace Declarations

/-- Whether an entity that is not declared might be declared elsewhere. -/
def mayLack (declarations : Declarations) : Bool :=
  declarations.isIncomplete && !declarations.standsAlone

def attribute? (declarations : Declarations) (element name : Text) :
    Option AttributeDeclaration :=
  declarations.attributes.find? fun declared => declared.element = element ∧ declared.name = name

end Declarations

/-- The entities that need no declaration. -/
def predefined : List (Text × Char) :=
  [("lt".toList, '<'), ("gt".toList, '>'), ("amp".toList, '&'), ("apos".toList, '\''),
    ("quot".toList, '"')]

/-- Entities whose text is being read, and the number of bytes that the texts of entities may still
give. -/
structure Expansion where
  opened : List Text := []
  budget : Nat
  deriving DecidableEq, Repr

/-- The state while the text of an entity is being read. -/
def Expansion.enter (expansion : Expansion) (name text : Text) : Except Stop Expansion :=
  let size := text.foldr (fun c size => c.utf8Size + size) 0
  if expansion.budget < size then Stop.here .amplified
  else .ok ⟨name :: expansion.opened, expansion.budget - size⟩

/-- What a reference to an entity by name finds. -/
inductive Referent
  | undefined
  /-- The entity may be declared elsewhere. -/
  | unknown
  /-- The entity is being read already. -/
  | opened
  | unparsed
  | external
  | character (c : Char)
  | text (text : Text)
  deriving DecidableEq, Repr

/-- What a reference finds when the entities `opened` are being read. -/
def Declarations.referent (declarations : Declarations) (opened : List Text) (name : Text) :
    Referent :=
  match predefined.lookup name with
  | some c => .character c
  | none =>
    match declarations.entities.lookup name with
    | none => if declarations.mayLack then .unknown else .undefined
    | some entity =>
      if name ∈ opened then .opened
      else if entity.unparsed then .unparsed
      else
        match entity.text with
        | none => .external
        | some text => .text text

/-- A value that is being read: its characters in reverse order. -/
structure PartialValue where
  done : Text := []
  expansion : Expansion

/-- The value with one more space, unless it is `tokens` and there would be two of them or one at
the start. -/
def PartialValue.addSpace (tokens : Bool) (value : PartialValue) : PartialValue :=
  if tokens ∧ (value.done.isEmpty ∨ value.done.head? = some ' ') then value
  else { value with done := ' ' :: value.done }

/-- Reads the characters of a value. `expand` reads the text of an entity with a given name;
`behind` is the document behind the value. -/
def valueChars (declarations : Declarations) (tokens : Bool) (behind : Text)
    (expand : Text → Text → PartialValue → Except Stop PartialValue) :
    (steps : Nat) → PartialValue → Text → Except Stop PartialValue
  | 0, value, _ => .ok value
  | _ + 1, value, [] => .ok value
  | steps + 1, value, c :: rest =>
    let next := valueChars declarations tokens behind expand steps
    if c = '<' then Stop.atPlace .invalidToken (c :: rest ++ behind)
    else if c = '\r' ∧ rest.head? = some '\n' then next (value.addSpace tokens) (rest.drop 1)
    else if isSpace c then next (value.addSpace tokens) rest
    else if c ≠ '&' then next { value with done := c :: value.done } rest
    else
      match Scan.reference rest with
      | .error (.invalid place) => Stop.atPlace .invalidToken (place ++ behind)
      | .error .ended => Stop.atPlace .invalidToken (c :: rest ++ behind)
      | .ok (.character none, _) => Stop.atPlace .badCharacterNumber (c :: rest ++ behind)
      | .ok (.character (some d), after) =>
        next (if d = ' ' then value.addSpace tokens else { value with done := d :: value.done })
          after
      | .ok (.entity name, after) =>
        match declarations.referent value.expansion.opened name with
        | .undefined => Stop.here .undefinedEntity
        | .unknown => next value after
        | .opened => Stop.here .recursiveEntity
        | .unparsed => Stop.atPlace .binaryEntity (c :: rest ++ behind)
        | .external => Stop.atPlace .externalEntityInAttribute (c :: rest ++ behind)
        | .character d => next { value with done := d :: value.done } after
        | .text text => do
          next (← expand name text value) after

/-- Reads a value, and the texts of entities up to `depth` inside each other. -/
def expandValue (declarations : Declarations) (tokens : Bool) :
    (depth : Nat) → (behind : Text) → PartialValue → Text → Except Stop PartialValue
  | 0, _, _, _ => Stop.here .recursiveEntity
  | depth + 1, behind, value, text =>
    valueChars declarations tokens behind (fun name text value => Stop.withoutPlace do
      let inside ← value.expansion.enter name text
      let value' ← expandValue declarations tokens depth [] { value with expansion := inside } text
      let expansion := { value'.expansion with opened := value.expansion.opened }
      return { value' with expansion })
      (text.length + 1) value text

/-- The value of an attribute that is written as `text`, with `behind` behind it. -/
def attributeText (declarations : Declarations) (isPlain : Bool) (expansion : Expansion)
    (text behind : Text) : Except Stop (Text × Expansion) := do
  let value ← expandValue declarations (!isPlain) (declarations.entities.length + 1) behind
    { expansion } text
  let done := if !isPlain ∧ value.done.head? = some ' ' then value.done.drop 1 else value.done
  return (done.reverse, value.expansion)

/-- The text of an entity that is declared as `text`, with `behind` behind it: references to
characters are replaced, line ends become newlines, and references to entities are kept. -/
def entityText (behind : Text) : (steps : Nat) → Text → Except Stop Text
  | 0, _ => .ok []
  | _ + 1, [] => .ok []
  | steps + 1, c :: rest =>
    match c, rest with
    | '\r', '\n' :: rest => do return '\n' :: (← entityText behind steps rest)
    | '\r', rest => do return '\n' :: (← entityText behind steps rest)
    | '%', rest =>
      match Scan.name rest with
      | .ok (_, ';' :: _) => Stop.atPlace .illegalParameterReference (c :: rest ++ behind)
      | .ok (_, []) | .error .ended => Stop.atPlace .invalidToken (c :: rest ++ behind)
      | .ok (_, place) | .error (.invalid place) => Stop.atPlace .invalidToken (place ++ behind)
    | '&', rest =>
      match Scan.reference rest with
      | .error (.invalid place) => Stop.atPlace .invalidToken (place ++ behind)
      | .error .ended | .ok (.character none, _) =>
        Stop.atPlace
          (match Scan.reference rest with
            | .error _ => .invalidToken
            | .ok _ => .badCharacterNumber)
          (c :: rest ++ behind)
      | .ok (.character (some d), after) => do return d :: (← entityText behind steps after)
      | .ok (.entity name, after) => do
        return '&' :: name ++ ';' :: (← entityText behind steps after)
    | c, rest => do return c :: (← entityText behind steps rest)

end ScriptSite.Xml
