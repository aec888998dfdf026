import ScriptSite.Yaml.Tag

/-!
# Scalars

A text stands plain, in quotes, or in a block of its own. Line ends inside of it are folded: one
becomes a space, and of several the first goes. In a block that keeps its lines they stay as they
are.
-/

namespace ScriptSite.Yaml.Scan

/-! ## Quotes -/

/-- The character that stands for itself, or for a character that is hard to write, behind a
backslash. -/
def escapedChar? : Char → Option Char
  | '0' => some '\x00'
  | 'a' => some '\x07'
  | 'b' => some '\x08'
  | 't' | '\t' => some '\t'
  | 'n' => some '\n'
  | 'v' => some '\x0b'
  | 'f' => some '\x0c'
  | 'r' => some '\r'
  | 'e' => some '\x1b'
  | ' ' => some ' '
  | '"' => some '"'
  | '\\' => some '\\'
  | '/' => some '/'
  | 'N' => some '\u0085'
  | '_' => some '\u00a0'
  | 'L' => some '\u2028'
  | 'P' => some '\u2029'
  | _ => none

/-- The number of hexadecimal digits behind a letter that introduces the number of a character. -/
def escapeWidth? : Char → Option Nat
  | 'x' => some 2
  | 'u' => some 4
  | 'U' => some 8
  | _ => none

/-- The number of a character, of which the first of two surrogates is given. -/
def joinSurrogates (high low : Nat) : Nat :=
  0x10000 + (high - 0xD800) * 0x400 + (low - 0xDC00)

/-- The number of a low surrogate that is written at the cursor as an escape of four digits. -/
def lowSurrogate? (cursor : Cursor) : Option Nat :=
  let digits := (cursor.rest.drop 2).take 4
  let number := hexNumber digits
  if cursor.rest.take 2 == ['\\', 'u'] && digits.length == 4 && digits.all isHex &&
      0xDC00 ≤ number && number ≤ 0xDFFF then some number
  else none

/-- The character with a number. The number of a surrogate is that of half a character, for which a
text has no place: two of them that follow each other make up one character here, and one that
stands alone is replaced. What is done with a text that has such a half in it is left out. -/
def charOf (number : Nat) : Scan Char := do
  if 0x10FFFF < number then throw (.noSuchCharacter number)
  else if 0xD800 ≤ number ∧ number ≤ 0xDBFF then
    match lowSurrogate? (← get) with
    | some low =>
      skip 6
      return Char.ofNat (joinSurrogates number low)
    | none => return '\ufffd'
  else if 0xDC00 ≤ number ∧ number ≤ 0xDFFF then return '\ufffd'
  else return Char.ofNat number

/-- Reads the number of a character with so many hexadecimal digits. -/
def numberedChar (start : Mark) (width : Nat) : Scan Char := do
  let digits := (← get).rest.take width
  match digits.find? (!isHex ·) with
  | some wrong => fail .doubleQuotedScalar start (.notHexadecimal width wrong)
  | none =>
    if digits.length < width then fail .doubleQuotedScalar start (.notHexadecimal width finis)
    else
      skip width
      charOf (hexNumber digits)

/-- Reads blank lines inside of quotes: the line ends, without the spaces between them. -/
def quotedBreaks (start : Mark) : (fuel : Nat) → Scan Text
  | 0 => return []
  | fuel + 1 => do
    if ← atSeparator then fail .quotedScalar start .documentSeparator
    else
      let _ ← takeSpan isSpace
      let lineEnd ← lineBreak
      if lineEnd.isEmpty then return []
      else return lineEnd ++ (← quotedBreaks start fuel)

/-- Reads an escape in double quotes. A backslash at the end of a line joins the next line. -/
def escape (start : Mark) : Scan Text := do
  skip 1
  let c ← peek
  match escapedChar? c, escapeWidth? c with
  | some character, _ =>
    skip 1
    return [character]
  | none, some width =>
    skip 1
    return [← numberedChar start width]
  | none, none =>
    if isBreak c then
      let _ ← lineBreak
      quotedBreaks start ((← remaining) + 1)
    else failHere .doubleQuotedScalar start .unknownEscape

/-- The text that a line end and the line ends of blank lines behind it stand for. -/
def folded (lineEnd breaks : Text) : Text :=
  if lineEnd ≠ ['\n'] then lineEnd ++ breaks
  else if breaks.isEmpty then [' ']
  else breaks

/-- Reads spaces and line ends inside of quotes. -/
def quotedGap (start : Mark) : Scan Text := do
  let spaces ← takeSpan isSpace
  if (← peek) = finis then fail .quotedScalar start .endOfText
  else
    let lineEnd ← lineBreak
    if lineEnd.isEmpty then return spaces
    else return folded lineEnd (← quotedBreaks start ((← remaining) + 1))

/-- Whether a character stands for itself in quotes of any kind. -/
def isQuotable (c : Char) : Bool :=
  !isGap c && !("'\"\\".toList.contains c)

/-- Reads a text up to the closing quote. -/
def quotedPieces (quote : Char) (start : Mark) : (fuel : Nat) → Scan Text
  | 0 => return []
  | fuel + 1 => do
    let c ← peek
    let next ← peekAt 1
    if c = quote ∧ ¬(quote = '\'' ∧ next = '\'') then return []
    else
      let piece ←
        if c = quote then do
          skip 2
          pure [quote]
        else if isGap c then quotedGap start
        else if c = '\\' ∧ quote = '"' then escape start
        else if isQuotable c then takeSpan isQuotable
        else take 1
      return piece ++ (← quotedPieces quote start fuel)

def quoted : Scan TokenKind := do
  let start ← here
  let quote ← peek
  skip 1
  let text ← quotedPieces quote start ((← remaining) + 1)
  skip 1
  return .scalar text false

/-! ## Plain texts -/

/-- The characters that separate entries between brackets. -/
def isFlowMark (c : Char) : Bool :=
  ",[]\x7b\x7d".toList.contains c

/-- The length of a plain text up to a blank or a mark. A colon ends it before a blank, and between
brackets also before a mark. -/
def plainLength (inFlow : Bool) : Text → Nat
  | [] => 0
  | c :: rest =>
    let next := rest.head?.getD finis
    if isGap c || (c == ':' && (isGap next || (inFlow && isFlowMark next))) ||
        (inFlow && (isFlowMark c || c == '?')) then 0
    else plainLength inFlow rest + 1

/-- Reads blank lines behind a line end: their line ends, or nothing at all if a separator of
documents follows one of them. -/
def plainBreaks : (fuel : Nat) → Scan (Option Text)
  | 0 => return some []
  | fuel + 1 => do
    if ← atSeparator then return none
    else
      skipSpaces
      let lineEnd ← lineBreak
      if lineEnd.isEmpty then return some []
      else return (← plainBreaks fuel).map (lineEnd ++ ·)

/-- Reads the spaces and line ends behind a piece of a plain text, and tells whether there was a
line end. Nothing means that the text ends. -/
def plainGap : Scan (Option Text × Bool) := do
  let spaces ← takeSpan (· == ' ')
  let lineEnd ← lineBreak
  if lineEnd.isEmpty then return (if spaces.isEmpty then none else some spaces, false)
  else return ((← plainBreaks ((← remaining) + 1)).map (folded lineEnd), true)

/-- A plain text: its characters, the place where it ends, and whether there was a line end behind
it. -/
structure PlainText where
  text : Text
  stop : Mark
  lineEnded : Bool

/-- Reads the pieces of a plain text, the first of which follows `gap` and `before`. Outside of
brackets a piece that is indented less than `indent` does not belong to it. -/
def plainPieces (inFlow : Bool) (indent : Int) (before : PlainText) (gap : Text) :
    (fuel : Nat) → Scan PlainText
  | 0 => return before
  | fuel + 1 => do
    let length := plainLength inFlow (← get).rest
    if (← peek) = '#' ∨ length = 0 then return before
    else
      let piece ← take length
      let stop ← here
      let (next?, lineEnded) ← plainGap
      let text : PlainText := ⟨before.text ++ gap ++ piece, stop, lineEnded⟩
      match next? with
      | none => return text
      | some next =>
        let column := (← here).column
        if (← peek) = '#' ∨ (!inFlow ∧ column < indent) then return text
        else plainPieces inFlow indent text next fuel

def plain (inFlow : Bool) (indent : Int) : Scan PlainText := do
  plainPieces inFlow indent ⟨[], ← here, false⟩ [] ((← remaining) + 1)

/-! ## Blocks -/

/-- What becomes of the line ends at the end of a block. -/
inductive Chomping
  | strip
  | clip
  | keep
  deriving DecidableEq, Repr

/-- Reads the sign for the line ends at the end, if there is one. -/
def chomping? : Scan (Option Chomping) := do
  let c ← peek
  if c = '+' then
    skip 1
    return some .keep
  else if c = '-' then
    skip 1
    return some .strip
  else return none

/-- Reads a digit that tells the indentation, if there is one. -/
def indentation? (start : Mark) : Scan (Option Nat) := do
  let c ← peek
  if c = '0' then fail .blockScalar start .zeroIndentation
  else if c.isDigit then
    skip 1
    return some (c.toNat - '0'.toNat)
  else return none

/-- Reads the signs behind the mark of a block, which come in any order. -/
def blockSigns (start : Mark) : Scan (Chomping × Option Nat) := do
  let first? ← chomping?
  let indentation? ← indentation? start
  let second? ← if first?.isNone ∧ indentation?.isSome then chomping? else pure none
  if endsWord (← peek) then
    return ((first?.orElse fun _ => second?).getD .clip, indentation?)
  else failHere .blockScalar start .notBlockIndicator

/-- Reads the blank lines a block begins with: the line ends, and the greatest number of spaces in a
row. -/
def blockIndentation (widest : Nat) : (fuel : Nat) → Scan (Text × Nat)
  | 0 => return ([], widest)
  | fuel + 1 => do
    skipSpaces
    let widest := max widest (← here).column
    let lineEnd ← lineBreak
    if lineEnd.isEmpty then return ([], widest)
    else
      let (breaks, widest) ← blockIndentation widest fuel
      return (lineEnd ++ breaks, widest)

/-- Moves over spaces up to a column. -/
def skipIndent (indent : Nat) : Scan Unit := do
  let spaces := ((← get).rest.takeWhile (· == ' ')).length
  skip (min spaces (indent - (← here).column))

/-- Reads the blank lines between those of a block: the line ends. -/
def blockBreaks (indent : Nat) : (fuel : Nat) → Scan Text
  | 0 => return []
  | fuel + 1 => do
    skipIndent indent
    let lineEnd ← lineBreak
    if lineEnd.isEmpty then return []
    else return lineEnd ++ (← blockBreaks indent fuel)

/-- Whether a line of a block begins at the cursor. -/
def atBlockLine (indent : Nat) : Scan Bool := do
  return (← here).column = indent ∧ (← peek) ≠ finis

/-- What stands for the line end between two lines of a block. In a block that is folded it becomes
a space if neither line begins with a blank, and goes if blank lines follow. -/
def blockLineEnd (folds leadingBlank nextBlank : Bool) (lineEnd breaks : Text) : Text :=
  if folds && lineEnd == ['\n'] && !leadingBlank && !nextBlank then
    (if breaks.isEmpty then [' '] else [])
  else lineEnd

/-- Reads the lines of a block, before which there are blank lines with the line ends `breaks`.
Gives the text, the line end behind the last line, and the line ends of the blank lines at the end.
-/
def blockLines (folds : Bool) (indent : Nat) (breaks : Text) :
    (fuel : Nat) → Scan (Text × Text × Text)
  | 0 => return ([], [], breaks)
  | fuel + 1 => do
    let leadingBlank := isSpace (← peek)
    let line ← takeSpan (!endsLine ·)
    let lineEnd ← lineBreak
    let nextBreaks ← blockBreaks indent ((← remaining) + 1)
    if ← atBlockLine indent then
      let between := blockLineEnd folds leadingBlank (isSpace (← peek)) lineEnd nextBreaks
      let (text, final) ← blockLines folds indent nextBreaks fuel
      return (breaks ++ line ++ between ++ text, final)
    else return (breaks ++ line, lineEnd, nextBreaks)

/-- The text of a block with the line ends at its end. -/
def chomped (chomping : Chomping) (text lineEnd breaks : Text) : Text :=
  match chomping with
  | .strip => text
  | .clip => text ++ lineEnd
  | .keep => text ++ lineEnd ++ breaks

/-- Reads a text in a block, inside of a block with the indentation `outer`. -/
def block (outer : Int) : Scan TokenKind := do
  let start ← here
  let folds := (← peek) = '>'
  skip 1
  let (chomping, indentation?) ← blockSigns start
  restOfLine .blockScalar start
  let least := max 1 (outer + 1).toNat
  let (breaks, indent) ←
    match indentation? with
    | none => do
      let (breaks, widest) ← blockIndentation 0 ((← remaining) + 1)
      pure (breaks, max least widest)
    | some number => do
      let indent := least + number - 1
      let breaks ← blockBreaks indent ((← remaining) + 1)
      pure (breaks, indent)
  let (text, lineEnd, breaks) ←
    if ← atBlockLine indent then blockLines folds indent breaks ((← remaining) + 1)
    else pure ([], [], breaks)
  return .scalar (chomped chomping text lineEnd breaks) false

end ScriptSite.Yaml.Scan
