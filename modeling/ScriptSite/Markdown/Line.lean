import ScriptSite.Markdown.Glyph
import ScriptSite.Text.Word

/-!
# Lines that begin blocks

What a line, or the first lines of a block, must look like to be a list item, a heading, a rule or a
quotation. Indentation counts in steps of four spaces: up to three spaces before a mark are allowed,
and four or more make the line belong to something above it.
-/

namespace ScriptSite.Markdown

/-- The width of one step of indentation. -/
def indentWidth : Nat := 4

/-- One step of indentation. -/
def indent : Text := List.replicate indentWidth ' '

/-- Whether a run begins with at least one step of indentation. -/
def isIndented (run : Run) : Bool :=
  run.startsWith indent

/-- A run without its leading spaces, and their number. -/
def splitSpaces (run : Run) : Nat × Run :=
  ((run.takeWhile (·.is ' ')).length, run.dropWhile (·.is ' '))

/-- The lines of a run up to the first that is neither indented nor blank, with one step of
indentation taken away, and the rest of the lines. -/
def detabLines : List Run → List Run × List Run
  | [] => ([], [])
  | line :: rest =>
    if isIndented line then
      ((line.drop indentWidth) :: (detabLines rest).1, (detabLines rest).2)
    else if line.allBlank then ([] :: (detabLines rest).1, (detabLines rest).2)
    else ([], line :: rest)

/-- The indented beginning of a block, moved one step to the left, and the rest of the block. -/
def detab (block : Run) : Run × Run :=
  let (inside, rest) := detabLines block.lines
  (Run.unlines inside, Run.unlines rest)

/-- A block with `level` steps of indentation taken from each line that has them. -/
def looseDetab (level : Nat) (block : Run) : Run :=
  let width := indentWidth * level
  Run.unlines (block.lines.map fun line =>
    if line.startsWith (List.replicate width ' ') then line.drop width else line)

/-- The two kinds of list. -/
inductive ListKind
  | bullets
  | numbers
  deriving DecidableEq, Repr

def ListKind.tag : ListKind → Tag
  | .bullets => .bulletList
  | .numbers => .numberList

/-- A list mark and the spaces after it: the kind of list and what follows. A mark is a star, a plus
or a minus, or digits and a point. -/
def mark? (run : Run) : Option (ListKind × Run) :=
  let digits := run.takeWhile (·.satisfies isDecimalDigit)
  let found : Option (ListKind × Run) :=
    if !digits.isEmpty then
      match run.drop digits.length with
      | .char '.' :: rest => some (.numbers, rest)
      | _ => none
    else
      match run with
      | .char c :: rest => if c = '*' ∨ c = '+' ∨ c = '-' then some (.bullets, rest) else none
      | _ => none
  found.bind fun (kind, rest) =>
    let (spaces, content) := splitSpaces rest
    if spaces = 0 then none else some (kind, content)

/-- The list item that a run begins: the kind of list and the run behind the mark. -/
def item? (run : Run) : Option (ListKind × Run) :=
  let (spaces, rest) := splitSpaces run
  if spaces < indentWidth then mark? rest else none

/-- Whether a line is an item that is indented by one step. -/
def isNestedItem (line : Run) : Bool :=
  let (spaces, rest) := splitSpaces line
  indentWidth ≤ spaces && spaces < 2 * indentWidth && (mark? rest).isSome

/-- The items of a block whose first line is an item. A line without a mark goes on with the item
before it; an indented item opens a text of its own, which later indented items go on with. -/
def listItems (block : Run) : List Run :=
  let step (items : List Run) (line : Run) : List Run :=
    let extended := match items with
      | [] => [line]
      | last :: others => (last ++ Glyph.char '\n' :: line) :: others
    match item? line with
    | some (_, content) => content :: items
    | none =>
      if isNestedItem line then
        if items.head?.any isIndented then extended else line :: items
      else extended
  (block.lines.foldl step []).reverse

/-- Whether the rest of a heading line, closing number signs apart, is over: what follows the line,
if so. -/
def headingEnd? (run : Run) : Option Run :=
  match run.dropWhile (·.is '#') with
  | [] => some []
  | glyph :: rest => if glyph.is '\n' then some rest else none

/-- The text of a heading behind its number signs, and what follows the heading. A backslash
protects the character after it; at the end of a line it spoils the heading. -/
def headingText? : Run → Option (Run × Run)
  | [] => some ([], [])
  | glyph :: rest =>
    match headingEnd? (glyph :: rest) with
    | some after => some ([], after)
    | none =>
      if glyph.is '\\' then
        match rest with
        | [] => none
        | next :: rest =>
          if next.is '\n' then none
          else (headingText? rest).map fun (text, after) => (glyph :: next :: text, after)
      else (headingText? rest).map fun (text, after) => (glyph :: text, after)

/-- A heading that a run begins with: its level, its text and what follows. -/
def headingAt? (run : Run) : Option (Nat × Run × Run) :=
  let level := min 6 (run.takeWhile (·.is '#')).length
  if level = 0 then none
  else (headingText? (run.drop level)).map fun (text, after) => (level, text, after)

/-- The first place at which something begins: at the head of a run or behind a newline. The result
of `find?` there, with the run before that newline. -/
def atFirstLine? {α : Type} (find? : Run → Option α) (run : Run) : Option (Run × α) :=
  let rec behind (before : Run) : Run → Option (Run × α)
    | [] => none
    | glyph :: rest =>
      if glyph.is '\n' then
        match find? rest with
        | some found => some (before.reverse, found)
        | none => behind (glyph :: before) rest
      else behind (glyph :: before) rest
  match find? run with
  | some found => some ([], found)
  | none => behind [] run

/-- The first heading in a block: what stands before it, its level, its text and what follows. -/
def heading? (block : Run) : Option (Run × Nat × Run × Run) :=
  atFirstLine? headingAt? block

/-- A heading with a line of equals signs or dashes under it, at the head of a block: its level, its
text and the lines behind it. -/
def underlinedHeading? (block : Run) : Option (Nat × Run × List Run) :=
  match block.lines with
  | title :: underline :: rest =>
    let marks := underline.takeWhile fun glyph => glyph.is '=' || glyph.is '-'
    if !marks.isEmpty && (underline.drop marks.length).all (·.is ' ') then
      some (if underline.startsWith ['='] then 1 else 2, title, rest)
    else none
  | _ => none

/-- Whether a run is nothing but the given mark and gaps of at most two spaces between marks; any
spaces may follow the last. `gap` spaces stand before it. -/
def isRuleOf (mark : Char) : (gap : Nat) → Run → Bool
  | _, [] => true
  | gap, glyph :: rest =>
    if glyph.is mark then gap ≤ 2 && isRuleOf mark 0 rest
    else glyph.is ' ' && isRuleOf mark (gap + 1) rest

/-- Whether a line is a horizontal rule: at least three dashes, underscores or stars. -/
def isRule (line : Run) : Bool :=
  let (spaces, rest) := splitSpaces line
  spaces < indentWidth && ['-', '_', '*'].any fun mark =>
    rest.startsWith [mark] && 3 ≤ rest.countP (·.is mark) && isRuleOf mark 0 rest

/-- The lines before the first rule of a block, and those behind it. -/
def splitAtRule? : List Run → Option (List Run × List Run)
  | [] => none
  | line :: rest =>
    if isRule line then some ([], rest)
    else (splitAtRule? rest).map fun (before, after) => (line :: before, after)

/-- What follows the mark of a quotation that a run begins with. -/
def quoted? (run : Run) : Option Run :=
  let (spaces, rest) := splitSpaces run
  match rest with
  | .char '>' :: rest =>
    if spaces < indentWidth then
      match rest with
      | .char ' ' :: rest => some rest
      | _ => some rest
    else none
  | _ => none

/-- A line of a quotation without its mark. -/
def unquoteLine (line : Run) : Run :=
  match line.trim with
  | [.char '>'] => []
  | _ => (quoted? line).getD line

/-- A block that holds a quotation: what stands before it, and the quotation without its marks. If a
newline parts the two, the quotation begins with it. -/
def quotation? (block : Run) : Option (Run × Run) :=
  (atFirstLine? quoted? block).map fun (before, _) =>
    let quote : Run := block.drop before.length
    (before, Run.unlines (quote.lines.map unquoteLine))

end ScriptSite.Markdown
