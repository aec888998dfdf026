import ScriptSite.Text.Basic

/-!
# Faults in XML

Why a document cannot be read, and where. Lines are counted from one and columns from zero. A
carriage return ends a line, alone or together with a newline behind it.
-/

namespace ScriptSite.Xml

/-- Why a document cannot be read. -/
inductive Fault
  | noElement
  | misplaced
  | invalidToken
  | unclosedToken
  | partialCharacter
  | mismatchedTag
  | duplicateAttribute
  | junkBehindRoot
  | illegalParameterReference
  | undefinedEntity
  /-- A reference to an entity that may be declared elsewhere. -/
  | skippedEntity (name : Text)
  | recursiveEntity
  | asynchronousEntity
  | badCharacterNumber
  | binaryEntity
  | externalEntityInAttribute
  | misplacedDeclaration
  | incorrectEncoding
  /-- An encoding that differs from ASCII where documents are marked up. -/
  | unfitEncoding
  /-- An encoding that cannot be read byte by byte. -/
  | widerEncoding
  /-- An encoding that has no name here. -/
  | unknownEncoding (name : Text)
  | unclosedSection
  | malformedDeclaration
  | illegalPublicIdentifier
  | undeclaredPrefix
  | unboundPrefix
  | reservedPrefix
  | reservedDeclarationPrefix
  | reservedNamespace
  | amplified
  deriving DecidableEq, Repr

/-- The longest part of a reference that a message shows. -/
def shownReference (name : Text) : Text :=
  ('&' :: name ++ [';']).take 100

def Fault.message : Fault → Text
  | .noElement => "no element found".toList
  | .misplaced => "syntax error".toList
  | .invalidToken => "not well-formed (invalid token)".toList
  | .unclosedToken => "unclosed token".toList
  | .partialCharacter => "partial character".toList
  | .mismatchedTag => "mismatched tag".toList
  | .duplicateAttribute => "duplicate attribute".toList
  | .junkBehindRoot => "junk after document element".toList
  | .illegalParameterReference => "illegal parameter entity reference".toList
  | .undefinedEntity => "undefined entity".toList
  | .skippedEntity name => "undefined entity ".toList ++ shownReference name
  | .recursiveEntity => "recursive entity reference".toList
  | .asynchronousEntity => "asynchronous entity".toList
  | .badCharacterNumber => "reference to invalid character number".toList
  | .binaryEntity => "reference to binary entity".toList
  | .externalEntityInAttribute => "reference to external entity in attribute".toList
  | .misplacedDeclaration => "XML or text declaration not at start of entity".toList
  | .incorrectEncoding => "encoding specified in XML declaration is incorrect".toList
  | .unfitEncoding => "unknown encoding".toList
  | .widerEncoding => "multi-byte encodings are not supported".toList
  | .unknownEncoding name => "unknown encoding: ".toList ++ name
  | .unclosedSection => "unclosed CDATA section".toList
  | .malformedDeclaration => "XML declaration not well-formed".toList
  | .illegalPublicIdentifier => "illegal character(s) in public id".toList
  | .undeclaredPrefix => "must not undeclare prefix".toList
  | .unboundPrefix => "unbound prefix".toList
  | .reservedPrefix =>
    "reserved prefix (xml) must not be undeclared or bound to another namespace name".toList
  | .reservedDeclarationPrefix =>
    "reserved prefix (xmlns) must not be declared or undeclared".toList
  | .reservedNamespace => "prefix must not be bound to one of the reserved namespace names".toList
  | .amplified =>
    "limit on input amplification factor (from DTD and entities) breached".toList

/-- A place in a document. -/
structure Position where
  line : Nat := 1
  column : Nat := 0
  deriving DecidableEq, Repr

/-- The place that is reached from `position` through a text. -/
def Position.advance (position : Position) : Text → Position
  | [] => position
  | '\r' :: '\n' :: rest => advance ⟨position.line + 1, 0⟩ rest
  | c :: rest =>
    if c = '\n' ∨ c = '\r' then advance ⟨position.line + 1, 0⟩ rest
    else advance ⟨position.line, position.column + 1⟩ rest

/-- A fault and the place where it was noticed. -/
structure Diagnosis where
  fault : Fault
  position : Position
  deriving DecidableEq, Repr

/-- What is told about a fault. -/
def Diagnosis.message (diagnosis : Diagnosis) : Text :=
  diagnosis.fault.message ++ ": line ".toList ++ Text.ofNat diagnosis.position.line ++
    ", column ".toList ++ Text.ofNat diagnosis.position.column

end ScriptSite.Xml
