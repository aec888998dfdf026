import ScriptSite.Yaml.Fault

/-!
# Cursors

A cursor stands at a place in a text. Scanning moves it forward and may find a fault.
-/

namespace ScriptSite.Yaml

/-- A place in a text and what follows it. -/
structure Cursor where
  mark : Mark := {}
  rest : Text
  deriving DecidableEq, Repr

namespace Cursor

/-- The character `offset` places behind the cursor. -/
def charAt (cursor : Cursor) (offset : Nat) : Char :=
  cursor.rest[offset]?.getD finis

/-- The cursor behind the next `count` characters. -/
def advance : (count : Nat) → Cursor → Cursor
  | 0, cursor => cursor
  | count + 1, cursor =>
    match cursor.rest with
    | [] => cursor
    | c :: rest => advance count ⟨cursor.mark.advance c, rest⟩

/-- Whether a separator of documents, three dashes or three dots, stands at the cursor. -/
def atSeparator (cursor : Cursor) (c : Char) : Bool :=
  cursor.rest.take 3 == [c, c, c] && isGap (cursor.charAt 3)

end Cursor

/-- Reads something at the cursor. -/
abbrev Scan (α : Type) := StateT Cursor (Except Fault) α

namespace Scan

/-- The character `offset` places behind the cursor. -/
def peekAt (offset : Nat) : Scan Char := do
  return (← get).charAt offset

def peek : Scan Char :=
  peekAt 0

def here : Scan Mark := do
  return (← get).mark

/-- Moves over characters. -/
def skip (count : Nat) : Scan Unit :=
  modify (Cursor.advance count)

/-- Reads a number of characters. -/
def take (count : Nat) : Scan Text := do
  let text := (← get).rest.take count
  skip count
  return text

/-- Reads characters as long as they are of a class. -/
def takeSpan (p : Char → Bool) : Scan Text := do
  take ((← get).rest.takeWhile p).length

/-- Moves over the spaces at the cursor. -/
def skipSpaces : Scan Unit := do
  let _ ← takeSpan (· == ' ')

/-- Moves to the end of the line. -/
def skipLine : Scan Unit := do
  let _ ← takeSpan (!endsLine ·)

/-- Moves over a comment up to the end of its line, if there is one at the cursor. -/
def skipComment : Scan Unit := do
  if (← peek) = '#' then skipLine

/-- Reads a line end if there is one at the cursor. All line ends but the separators of lines and
paragraphs are newlines in a value. -/
def lineBreak : Scan Text := do
  let c ← peek
  if !isBreak c then return []
  else
    skip 1
    return [if c == '\u0085' then '\n' else c]

/-- Whether a separator of documents stands at the cursor. -/
def atSeparator : Scan Bool := do
  let cursor ← get
  return cursor.atSeparator '-' || cursor.atSeparator '.'

/-- The number of characters up to the end of the text. -/
def remaining : Scan Nat := do
  return (← get).rest.length

/-- Finds a fault at a place. -/
def failFrom {α : Type} (context : Context) (start : Mark) (complaint : Complaint) (mark : Mark) :
    Scan α :=
  throw (.problem { context := some context, contextMark := some start, complaint, mark })

/-- Finds a fault at the cursor in something that began at `start`. -/
def fail {α : Type} (context : Context) (start : Mark) (complaint : Complaint) : Scan α := do
  failFrom context start complaint (← here)

/-- Finds a fault in the character at the cursor. -/
def failHere {α : Type} (context : Context) (start : Mark) (complaint : Char → Complaint) :
    Scan α := do
  fail context start (complaint (← peek))

end Scan

end ScriptSite.Yaml
