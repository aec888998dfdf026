import ScriptSite.Text.Basic

/-!
# Places in a document

Texts in which YAML is written have only newlines, next-line controls, and line and paragraph
separators as line ends. The end of the text is seen as a NUL, which no such text holds.
-/

namespace ScriptSite.Yaml

/-- A place in a text: the number of characters before it, and its line and column, counted from
zero. -/
structure Mark where
  index : Nat := 0
  line : Nat := 0
  column : Nat := 0
  deriving DecidableEq, Repr

/-- What is seen at the end of a text. -/
def finis : Char :=
  '\x00'

/-- The mark that may begin a text and has no width. -/
def byteOrderMark : Char :=
  Char.ofNat 0xFEFF

/-- Whether a character ends a line. -/
def isBreak (c : Char) : Bool :=
  c == '\n' || c == '\u0085' || c == '\u2028' || c == '\u2029'

def endsLine (c : Char) : Bool :=
  c == finis || isBreak c

/-- Whether a word ends at a character: at a space or where the line ends. -/
def endsWord (c : Char) : Bool :=
  c == ' ' || endsLine c

/-- Whether a character is blank or ends a line. -/
def isGap (c : Char) : Bool :=
  c == '\t' || endsWord c

/-- Whether a character is a space or a tab. -/
def isSpace (c : Char) : Bool :=
  c == ' ' || c == '\t'

/-- Whether a character can stand in the name of an anchor. -/
def isNameChar (c : Char) : Bool :=
  c.isAlphanum || c == '-' || c == '_'

/-- Whether a character is a hexadecimal digit. -/
def isHex (c : Char) : Bool :=
  c.isDigit || ('a' ≤ c && c ≤ 'f') || ('A' ≤ c && c ≤ 'F')

def hexNumber (digits : Text) : Nat :=
  digits.foldl (fun sum c =>
    sum * 16 + (if c.isDigit then c.toNat - '0'.toNat else c.toLower.toNat - 'a'.toNat + 10)) 0

namespace Mark

/-- The place behind a character. -/
def advance (mark : Mark) (c : Char) : Mark :=
  if isBreak c then ⟨mark.index + 1, mark.line + 1, 0⟩
  else if c = byteOrderMark then ⟨mark.index + 1, mark.line, mark.column⟩
  else ⟨mark.index + 1, mark.line, mark.column + 1⟩

/-- How far a line is shown on either side of a place, if it is longer than that and a bit. -/
def shownWidth : Nat :=
  32

/-- How long a line may be on either side of a place to be shown whole. -/
def wholeWidth : Nat :=
  36

/-- What stands for the rest of a line. -/
def ellipsis : Text :=
  " ... ".toList

/-- The line of a text around a place, and under it a pointer to the place. -/
def snippet (mark : Mark) (text : Text) : Text :=
  let before := ((text.take mark.index).reverse.takeWhile (!endsLine ·)).reverse
  let behind := (text.drop mark.index).takeWhile (!endsLine ·)
  let left :=
    if wholeWidth < before.length then ellipsis ++ before.drop (before.length - shownWidth)
    else before
  let right := if wholeWidth < behind.length then behind.take shownWidth ++ ellipsis else behind
  List.replicate 4 ' ' ++ left ++ right ++ '\n' :: List.replicate (4 + left.length) ' ' ++ ['^']

/-- The words for a place in a text. -/
def message (mark : Mark) (text : Text) : Text :=
  "  in \"<unicode string>\", line ".toList ++ Text.ofNat (mark.line + 1) ++ ", column ".toList ++
    Text.ofNat (mark.column + 1) ++ ":\n".toList ++ mark.snippet text

end Mark

end ScriptSite.Yaml
