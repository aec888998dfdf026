import ScriptSite.Xml.Char

/-!
# Tags, references and comments

The pieces of markup that stand in an element. A scan takes a text that begins with the piece and
gives what it found together with the text behind it. It stops at the first character that cannot
stand where it is, or at the end of the text.
-/

namespace ScriptSite.Xml

/-- Why a scan stops: at the character that `rest` begins with, or at the end of the text. -/
inductive Halt
  | invalid (rest : Text)
  | ended
  deriving DecidableEq, Repr

def haltAt {α : Type} : Text → Except Halt α
  | [] => .error .ended
  | rest => .error (.invalid rest)

namespace Scan

/-- A name without a colon. -/
def name (text : Text) : Except Halt (Text × Text) :=
  if text.head?.any isNameStart then
    .ok (text.takeWhile isNameChar, text.dropWhile isNameChar)
  else haltAt text

/-- A name that may have one colon inside. -/
def qualifiedName (text : Text) : Except Halt (Text × Text) := do
  let (first, rest) ← name text
  match rest with
  | ':' :: rest =>
    let (second, rest) ← name rest
    if rest.head? = some ':' then haltAt rest else return (first ++ ':' :: second, rest)
  | _ => return (first, rest)

/-- The text behind the character `c`. -/
def char (c : Char) (text : Text) : Except Halt Text :=
  if text.head? = some c then .ok (text.drop 1) else haltAt text

/-- What a reference refers to. The number of a character that no document may hold refers to
nothing. -/
inductive Reference
  | entity (name : Text)
  | character (c : Option Char)
  deriving DecidableEq, Repr

/-- The character with the number that digits spell. -/
def charOfDigits? (base : Nat) (digits : Text) : Option Char :=
  let value (c : Char) : Nat :=
    if c.isDigit then c.toNat - '0'.toNat else (c.toNat - 'A'.toNat) % 32 + 10
  let number := digits.foldl (fun n c => min 0x110000 (n * base + value c)) 0
  if number < 0xD800 ∨ (0xE000 ≤ number ∧ number < 0x110000) then
    let c := Char.ofNat number
    if isAllowed c then some c else none
  else none

/-- A reference to a character by its number. -/
def number (base : Nat) (isDigit : Char → Bool) (text : Text) : Except Halt (Reference × Text) := do
  if !text.head?.any isDigit then haltAt text
  else
    let rest ← char ';' (text.dropWhile isDigit)
    return (.character (charOfDigits? base (text.takeWhile isDigit)), rest)

/-- Whether a character is a hexadecimal digit. -/
def isHexDigit (c : Char) : Bool :=
  c.isDigit || ('a' ≤ c && c ≤ 'f') || ('A' ≤ c && c ≤ 'F')

/-- A reference, behind its ampersand. -/
def reference : Text → Except Halt (Reference × Text)
  | '#' :: 'x' :: rest => number 16 isHexDigit rest
  | '#' :: rest => number 10 Char.isDigit rest
  | text => do
    let (entity, rest) ← name text
    let rest ← char ';' rest
    return (.entity entity, rest)

/-- A comment, behind its two hyphens. Two hyphens end it. -/
def commentBody : Text → Except Halt Text
  | [] => .error .ended
  | '-' :: '-' :: rest => char '>' rest
  | c :: rest => if isAllowed c then commentBody rest else haltAt (c :: rest)

/-- A comment, behind its first hyphen. -/
def comment (text : Text) : Except Halt Text := do
  commentBody (← char '-' text)

/-- The text of an instruction, up to the question mark and bracket that end it. -/
def instructionBody : Text → Except Halt (Text × Text)
  | [] => .error .ended
  | '?' :: '>' :: rest => .ok ([], rest)
  | c :: rest =>
    if isAllowed c then do
      let (body, rest) ← instructionBody rest
      return (c :: body, rest)
    else haltAt (c :: rest)

/-- What begins with a bracket and a question mark: an instruction, or the declaration of the
document, which comes with its text. -/
inductive Instruction
  | other
  | declaration (body : Text)
  deriving DecidableEq, Repr

/-- An instruction, behind its question mark. The name of the declaration is reserved in capitals.
-/
def instruction (text : Text) : Except Halt (Instruction × Text) := do
  let (target, rest) ← name text
  let reserved := target.length = 3 ∧ String.ofList (target.map Char.toLower) = "xml"
  if target ≠ ['x', 'm', 'l'] ∧ reserved ∧
      rest.head?.any (fun c => isSpace c || c == '?') then
    haltAt rest
  else if rest.head?.any isSpace then
    let (body, rest) ← instructionBody rest
    return (if target = ['x', 'm', 'l'] then .declaration body else .other, rest)
  else
    let rest ← char '?' rest
    let rest ← char '>' rest
    return (if target = ['x', 'm', 'l'] then .declaration [] else .other, rest)

/-- An attribute as it is written. -/
structure Attribute where
  name : Text
  value : Text
  /-- The document from the name on. -/
  start : Text
  /-- The document behind the value. -/
  behind : Text
  deriving DecidableEq, Repr

/-- The value of an attribute up to the quote that ends it. References are checked and kept. -/
def attributeValue (quote : Char) : Text → Except Halt (Text × Text)
  | [] => .error .ended
  | c :: rest =>
    if c = quote then .ok ([], c :: rest)
    else if c = '<' ∨ !isAllowed c then haltAt (c :: rest)
    else do
      if c = '&' then
        let _ ← reference rest
      let (value, rest) ← attributeValue quote rest
      return (c :: value, rest)

/-- An attribute; the text behind it begins with the quote that ends its value. -/
def attribute? (text : Text) : Except Halt (Attribute × Text) := do
  let (name, rest) ← qualifiedName text
  let rest ← char '=' (rest.dropWhile isSpace)
  match rest.dropWhile isSpace with
  | [] => .error .ended
  | quote :: rest =>
    if quote = '"' ∨ quote = '\'' then
      let (value, rest) ← attributeValue quote rest
      return ({ name, value, start := text, behind := rest }, rest)
    else haltAt (quote :: rest)

/-- The end of a tag, and whether it closes the element. -/
def tagEnd : Text → Except Halt (Bool × Text)
  | '>' :: rest => .ok (false, rest)
  | '/' :: rest => do
    let rest ← char '>' rest
    return (true, rest)
  | text => haltAt text

/-- The attributes and the end of a tag. `steps` bounds the number of attributes. -/
def tagRest : (steps : Nat) → Text → Except Halt (List Attribute × Bool × Text)
  | 0, _ => .error .ended
  | steps + 1, text =>
    let start := text.dropWhile isSpace
    if text.head?.any isSpace && start.head?.any isNameStart then do
      let (first, rest) ← attribute? start
      let (others, closed, rest) ← tagRest steps (rest.drop 1)
      return (first :: others, closed, rest)
    else do
      let (closed, rest) ← tagEnd start
      return ([], closed, rest)

/-- What a bracket in content begins. -/
inductive Markup
  | startTag (name : Text) (attributes : List Attribute) (closed : Bool)
  | endTag (name : Text)
  | comment
  | instruction
  | declaration
  | dataSection
  deriving DecidableEq, Repr

/-- A start tag, behind its bracket. -/
def startTag (text : Text) : Except Halt (Markup × Text) := do
  let (name, rest) ← qualifiedName text
  let (attributes, closed, rest) ← tagRest (rest.length + 1) rest
  return (.startTag name attributes closed, rest)

/-- An end tag, behind its slash. It may have any number of colons. -/
def endTag (text : Text) : Except Halt (Markup × Text) :=
  if text.head?.any isNameStart then do
    let inName (c : Char) : Bool := isNameChar c || c == ':'
    let rest ← char '>' ((text.dropWhile inName).dropWhile isSpace)
    return (.endTag (text.takeWhile inName), rest)
  else haltAt text

/-- The text behind `letters`, which have to be there as a whole or not at all. -/
def letters : (letters text : Text) → Except Halt Text
  | [], text => .ok text
  | letter :: more, text => do
    letters more (← char letter text)

/-- The beginning of a section of character data, behind its first bracket. -/
def dataSection (text : Text) : Except Halt (Markup × Text) := do
  let opening := "CDATA[".toList
  if (text.take opening.length).length < opening.length then .error .ended
  else
    let rest ← letters opening text
    return (.dataSection, rest)

/-- What a bracket in content begins, behind that bracket. -/
def markup : Text → Except Halt (Markup × Text)
  | '!' :: '-' :: rest => do
    let rest ← comment rest
    return (.comment, rest)
  | '!' :: '[' :: rest => dataSection rest
  | '!' :: rest => haltAt rest
  | '?' :: rest => do
    let (found, rest) ← instruction rest
    return (match found with
      | .other => .instruction
      | .declaration _ => .declaration, rest)
  | '/' :: rest => endTag rest
  | text => startTag text

end Scan

end ScriptSite.Xml
