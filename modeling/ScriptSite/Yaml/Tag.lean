import ScriptSite.Yaml.Cursor
import ScriptSite.Yaml.Token

/-!
# Anchors, tags and directives

An anchor is an ampersand and a name, and a reference to it an asterisk and the name. A tag is a
handle and the rest of a resource name, or a whole one in angle brackets. A directive fills a line
of its own before a document.
-/

namespace ScriptSite.Yaml.Scan

/-- Whether an anchor can end before a character. -/
def endsAnchor (c : Char) : Bool :=
  isGap c || "?:,]\x7d%@`".toList.contains c

/-- Reads a name at the cursor, which has at least one character. -/
def name (context : Context) (start : Mark) : Scan Text := do
  let name ← takeSpan isNameChar
  if name.isEmpty then failHere context start .notNameChar else return name

/-- Reads an anchor or a reference. -/
def anchor : Scan TokenKind := do
  let start ← here
  let isReference := (← peek) = '*'
  let context : Context := if isReference then .reference else .anchor
  skip 1
  let name ← name context start
  if endsAnchor (← peek) then return if isReference then .reference name else .anchor name
  else failHere context start .notNameChar

/-- Reads a handle, which stands between two exclamation marks or is a single one before a space. -/
def handle (context : Context) (start : Mark) : Scan Text := do
  if (← peek) ≠ '!' then failHere context start .notHandle
  else if (← peekAt 1) = ' ' then take 1
  else
    skip 1
    let name ← takeSpan isNameChar
    if (← peek) ≠ '!' then failHere context start .notHandle
    else
      skip 1
      return '!' :: name ++ ['!']

/-- Whether a character stands for itself in a resource name. -/
def isUriChar (c : Char) : Bool :=
  isNameChar c || ";/?:@&=+$,.!~*'()[]".toList.contains c

/-- Reads bytes that are written as percent signs and two hexadecimal digits each. -/
def escapedBytes (context : Context) (start : Mark) : (fuel : Nat) → Scan Bytes
  | 0 => return []
  | fuel + 1 => do
    if (← peek) ≠ '%' then return []
    else
      skip 1
      if !isHex (← peek) then failHere context start .notUriEscape
      else if !isHex (← peekAt 1) then
        fail context start (.notUriEscape (← peekAt 1))
      else
        let byte := UInt8.ofNat (hexNumber (← take 2))
        return byte :: (← escapedBytes context start fuel)

/-- Reads escaped bytes, which spell a text. -/
def escapedText (context : Context) (start : Mark) : Scan Text := do
  let mark ← here
  match Utf8.decode (← escapedBytes context start (← remaining)) with
  | .ok text => return text
  | .error fault => failFrom context start (.notUtf8 fault) mark

/-- Reads the characters of a resource name. -/
def uriChars (context : Context) (start : Mark) : (fuel : Nat) → Scan Text
  | 0 => return []
  | fuel + 1 => do
    let plain ← takeSpan isUriChar
    if (← peek) = '%' then
      let escaped ← escapedText context start
      return plain ++ escaped ++ (← uriChars context start fuel)
    else return plain

/-- Reads a resource name, which has at least one character. -/
def uri (context uriContext : Context) (start : Mark) : Scan Text := do
  let text ← uriChars context start ((← remaining) + 1)
  if text.isEmpty then failHere uriContext start .notUri else return text

/-- Reads a handle and what follows it, or what follows a single exclamation mark. -/
def handledTag (start : Mark) : Scan TokenKind := do
  let word := (← get).rest.tail.takeWhile (!endsWord ·)
  let handle ←
    if word.contains '!' then handle .tag start
    else take 1
  return .tag (some handle) (← uri .tag .tagUri start)

/-- Reads a resource name in angle brackets. -/
def wholeTag (start : Mark) : Scan TokenKind := do
  skip 2
  let suffix ← uri .tag .tagUri start
  if (← peek) ≠ '>' then failHere .tagUri start .notClosed
  else
    skip 1
    return .tag none suffix

def tag : Scan TokenKind := do
  let start ← here
  let next ← peekAt 1
  let tag ←
    if next = '<' then wholeTag start
    else if isGap next then do
      skip 1
      pure (.tag none ['!'])
    else handledTag start
  if endsWord (← peek) then return tag else failHere .tag start .notSpace

def versionNumber (start : Mark) : Scan Nat := do
  let digits ← takeSpan Char.isDigit
  if digits.isEmpty then failHere .directive start .notDigit
  else return digits.foldl (fun sum c => sum * 10 + (c.toNat - '0'.toNat)) 0

/-- Reads the version that a directive tells. -/
def version (start : Mark) : Scan Directive := do
  skipSpaces
  let major ← versionNumber start
  if (← peek) ≠ '.' then failHere .directive start .notDigitOrPoint
  else
    skip 1
    let minor ← versionNumber start
    if endsWord (← peek) then return .version major minor
    else failHere .directive start .notDigitOrSpace

/-- Reads the handle that a directive defines, and what it stands for. -/
def handleDefinition (start : Mark) : Scan Directive := do
  skipSpaces
  let handle ← handle .directive start
  if (← peek) ≠ ' ' then failHere .directive start .notSpace
  else
    skipSpaces
    let begin ← uri .directive .directiveUri start
    if endsWord (← peek) then return .handle handle begin
    else failHere .directive start .notSpace

/-- Moves to the next line; nothing but a comment may stand before it. -/
def restOfLine (context : Context) (start : Mark) : Scan Unit := do
  skipSpaces
  skipComment
  if endsLine (← peek) then
    let _ ← lineBreak
  else failHere context start .notCommentOrBreak

/-- Reads a directive with the line end behind it; the place where it ends is before the line end.
-/
def directive : Scan Token := do
  let start ← here
  skip 1
  let name ← name .directive start
  if !endsWord (← peek) then failHere .directive start .notNameChar
  else
    let content ←
      if name = "YAML".toList then version start
      else if name = "TAG".toList then handleDefinition start
      else pure .other
    let stop ← here
    if content = .other then skipLine
    restOfLine .directive start
    return ⟨.directive content, start, stop⟩

end ScriptSite.Yaml.Scan
