import ScriptSite.Markdown.Line
import ScriptSite.Text.Lower

/-!
# Link definitions

A definition gives a name to an address, and perhaps a title to show with it: the name in brackets,
a colon, the address, and the title in quotes or parentheses. The address may stand on the next
line, and so may the title; nothing else may follow on the last line. Names are compared without
regard to case.
-/

namespace ScriptSite.Markdown

/-- What a name stands for. -/
structure Target where
  address : Run
  title : Option Run

/-- The names defined so far, latest first. -/
abbrev Definitions := List (Text × Target)

/-- What a name stands for; a later definition hides an earlier one. -/
def Definitions.find? (definitions : Definitions) (name : Text) : Option Target :=
  (List.find? (fun definition => definition.1 == name) definitions).map (·.2)

/-- A run of at most three spaces and an opening bracket gone, if a run begins with them. -/
def openBracket? (run : Run) : Option Run :=
  let (spaces, rest) := splitSpaces run
  if spaces < indentWidth then Run.dropPrefix? ['['] rest else none

/-- A title that fills the rest of the line, and what follows from the end of that line on. -/
def title? (run : Run) : Option (Run × Run) :=
  let line := run.takeWhile fun glyph => !glyph.is '\n'
  let after := run.drop line.length
  let close? : Option Char :=
    match line with
    | .char '"' :: _ => some '"'
    | .char '\'' :: _ => some '\''
    | .char '(' :: _ => some ')'
    | _ => none
  let inner : Run := Run.dropWhileRight (·.is ' ') (line.drop 1)
  match close?, inner.getLast? with
  | some close, some final => if final.is close then some (inner.dropLast, after) else none
  | _, _ => none

/-- What follows a run of spaces that ends its line. -/
def lineEnd? (run : Run) : Option Run :=
  match run with
  | [] => some []
  | glyph :: _ => if glyph.is '\n' then some run else none

/-- The title after an address, if any, and what follows the definition. The title may stand on the
address's line or on the next one, and the next one is looked at first. -/
def titleAfter? (run : Run) : Option (Option Run × Run) :=
  let (_, run) := splitSpaces run
  let here : Option (Option Run × Run) :=
    match title? run with
    | some (title, after) => some (some title, after)
    | none => (lineEnd? run).map fun after => (none, after)
  match run with
  | .char '\n' :: below =>
    let (_, below) := splitSpaces below
    match title? below with
    | some (title, after) => some (some title, after)
    | none =>
      match lineEnd? below with
      | some after => some (none, after)
      | none => here
  | _ => here

/-- The longest address, of at most `length` glyphs, after which a definition can end: the address,
the title and what follows. -/
def addressOf? (run : Run) : (length : Nat) → Option (Run × Option Run × Run)
  | 0 => none
  | length + 1 =>
    match titleAfter? (run.drop (length + 1)) with
    | some (title, after) => some (run.take (length + 1), title, after)
    | none => addressOf? run length

/-- A definition that a run begins with: its name, its target and what follows. -/
def definitionAt? (run : Run) : Option (Run × Target × Run) := do
  let inner ← openBracket? run
  let isBracket (glyph : Glyph) : Bool := glyph.is '[' || glyph.is ']'
  let name := inner.takeWhile fun glyph => !isBracket glyph
  let rest ← Run.dropPrefix? [']', ':'] (inner.drop name.length)
  let (_, rest) := splitSpaces rest
  let rest :=
    match rest with
    | .char '\n' :: below => (splitSpaces below).2
    | _ => rest
  let (address, title, after) ← addressOf? rest (rest.takeWhile fun glyph => !glyph.isBlank).length
  let address : Run := address.dropWhile (·.is '<')
  some (name, ⟨Run.dropWhileRight (·.is '>') address, title⟩, after)

/-- The first definition in a block: what stands before it, its name, its target and what follows
it. -/
def definition? (block : Run) : Option (Run × Run × Target × Run) :=
  atFirstLine? definitionAt? block

/-- The name under which a definition is kept, if it can be looked up at all. -/
def definedName? (name : Run) : Option Text :=
  (Run.text? name).map fun text => Text.lower (Text.trim text)

end ScriptSite.Markdown
