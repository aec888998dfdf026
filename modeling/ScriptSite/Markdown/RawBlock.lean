import ScriptSite.Markdown.Glyph
import ScriptSite.Markdown.StartTag

/-!
# Raw HTML blocks

HTML blocks in a source are set aside before the source is read as markup. A block-level tag at the
start of a line, after at most three blanks, opens a block that reaches to the matching end tag.
Comments, declarations, processing instructions and empty block-level tags at the start of a line
are blocks of their own. Each block becomes one raw glyph between blank lines; all else passes
through as it is, and references that lack their semicolon gain it.

The source is read in two passes. The first stops where a construct is not complete, or at a
numeric reference that is none; the second goes on from there and takes what it cannot read as text.
-/

namespace ScriptSite.Markdown

/-- The names of block-level elements. -/
def blockNames : List Text :=
  ["address", "article", "aside", "blockquote", "details", "div", "dl", "fieldset", "figcaption",
    "figure", "footer", "form", "h1", "h2", "h3", "h4", "h5", "h6", "header", "hgroup", "hr",
    "main", "menu", "nav", "ol", "p", "pre", "section", "table", "ul", "canvas", "colgroup", "dd",
    "body", "dt", "group", "html", "iframe", "li", "legend", "math", "map", "noscript", "output",
    "object", "option", "progress", "script", "style", "summary", "tbody", "td", "textarea",
    "tfoot", "th", "thead", "tr", "video", "center"].map String.toList

/-- Whether a name, in any case and with slashes behind it, is that of a block-level element. -/
def isBlockName (name : Text) : Bool :=
  blockNames.contains (Text.dropWhileRight (· == '/') (Text.lower name))

/-- The state of the extraction. -/
structure Extraction where
  /-- The text of this pass. -/
  source : Text
  /-- Where the lines of `source` begin, as far as they have been looked up. -/
  lineStarts : List Nat := [0]
  /-- The number of the current line, counted from one over both passes. -/
  line : Nat := 1
  /-- The current column. -/
  column : Nat := 0
  /-- Whether a block is open. -/
  inBlock : Bool := false
  /-- Whether the line goes on behind a block. -/
  behindBlock : Bool := false
  /-- The names of the open tags of the block, innermost first. -/
  openTags : List Text := []
  /-- The HTML of the open block. -/
  block : Text := []
  /-- The name of the element whose content is not read as HTML, if one is open. -/
  opaqueTag : Option Text := none
  /-- The finished chunks, latest first. -/
  chunks : List Run := []

namespace Extraction

/-- The places where lines begin, filled up to line `n`. -/
def fillLineStarts (source : Text) : (n : Nat) → List Nat → List Nat
  | 0, starts => starts
  | n + 1, starts =>
    let last := starts.getLastD 0
    let next :=
      match (source.drop last).findIdx? (· == '\n') with
      | some offset => last + offset + 1
      | none => source.length + 1
    fillLineStarts source n (starts ++ [next])

/-- The extraction with the start of the current line looked up. -/
def lookUpLine (state : Extraction) : Extraction :=
  { state with
    lineStarts := fillLineStarts state.source (state.line - state.lineStarts.length)
      state.lineStarts }

/-- Where the current line begins in the text of this pass. -/
def lineStart (state : Extraction) : Nat :=
  state.lookUpLine.lineStarts[state.line - 1]?.getD 0

/-- The place that has been reached in the text of this pass. -/
def position (state : Extraction) : Nat :=
  state.lineStart + state.column

/-- Whether nothing but at most three blanks stands before the current place on its line. -/
def atLineStart (state : Extraction) : Bool :=
  state.column = 0 ||
    (state.column ≤ 3 && Text.allBlank ((state.source.drop state.lineStart).take state.column))

/-- The extraction as a look at a place with one to three characters before it on its line leaves
it. -/
def lookBack (state : Extraction) : Extraction :=
  if 1 ≤ state.column ∧ state.column ≤ 3 then state.lookUpLine else state

/-- The extraction after the given text has been passed. -/
def pass (text : Text) (state : Extraction) : Extraction :=
  let breaks := Text.newlines text
  if breaks = 0 then { state with column := state.column + text.length }
  else
    { state with
      line := state.line + breaks
      column := (text.reverse.takeWhile (· != '\n')).length }

def emit (run : Run) (state : Extraction) : Extraction :=
  { state with chunks := run :: state.chunks }

def emitText (text : Text) (state : Extraction) : Extraction :=
  state.emit (Run.ofText text)

/-- Closes the open block. -/
def emitBlock (state : Extraction) : Extraction :=
  { state.emit [.raw (Run.ofText state.block)] with block := [] }

/-- Whether a text begins with two lines of nothing but spaces. -/
def startsWithBlankLine (text : Text) : Bool :=
  match text.dropWhile (· == ' ') with
  | '\n' :: rest => (rest.dropWhile (· == ' ')).head? = some '\n'
  | _ => false

/-- Text that is no tag. -/
def onText (text : Text) (state : Extraction) : Extraction :=
  let state := if text.contains '\n' then { state with behindBlock := false } else state
  if state.inBlock then { state with block := state.block ++ text } else state.emitText text

/-- A construct that has no end of its own: an empty tag, a comment, a reference. -/
def onEmpty (text : Text) (isBlock : Bool) (state : Extraction) : Extraction :=
  if state.inBlock || state.behindBlock then { state with block := state.block ++ text }
  else if isBlock && state.atLineStart then
    let state := state.lookUpLine
    let blankFollows := startsWithBlankLine (state.source.drop (state.position + text.length))
    let html := if blankFollows then text ++ ['\n'] else text
    let state := if blankFollows then state else { state with behindBlock := true }
    let previous := (state.chunks.head?.getD []).reverse
    let oneBreak :=
      (previous.head?.any (·.is '\n')) && !((previous.drop 1).head?.any (·.is '\n'))
    let state := if oneBreak then state.emitText ['\n'] else state
    (state.emit [.raw (Run.ofText html)]).emitText ['\n', '\n']
  else state.lookBack.emitText text

/-- The elements whose content is not read as HTML. -/
def opaqueNames : List Text := ["script".toList, "style".toList]

def onStartTag (name text : Text) (state : Extraction) : Extraction :=
  if name = "hr".toList then state.onEmpty text true
  else
    let opens := isBlockName name && (state.behindBlock || state.atLineStart) && !state.inBlock
    let state := if isBlockName name && !state.behindBlock then state.lookBack else state
    let state := if opens then { state.emitText ['\n'] with inBlock := true } else state
    if state.inBlock then
      { state with openTags := name :: state.openTags, block := state.block ++ text }
    else if opaqueNames.contains name then { state.emitText text with opaqueTag := none }
    else state.emitText text

/-- The open tags after the innermost one of that name, and all within it, has been closed. -/
def closeTag (name : Text) (openTags : List Text) : List Text :=
  if openTags.contains name then (openTags.dropWhile (· ≠ name)).drop 1 else openTags

/-- The text of the end tag at the current place. -/
def endTagText (name : Text) (state : Extraction) : Text :=
  let here := state.source.drop state.position
  if here.contains '>' then here.takeWhile (· ≠ '>') ++ ['>'] else '<' :: '/' :: name ++ ['>']

def onEndTag (name : Text) (state : Extraction) : Extraction :=
  let state := state.lookUpLine
  let text := state.endTagText name
  if state.inBlock then
    let openTags := closeTag name state.openTags
    let state := { state with block := state.block ++ text, openTags }
    if openTags.isEmpty then
      let blankFollows := startsWithBlankLine (state.source.drop (state.position + text.length))
      let state :=
        if blankFollows then { state with block := state.block ++ ['\n'] }
        else { state with behindBlock := true }
      ({ state with inBlock := false }.emitBlock).emitText ['\n', '\n']
    else state
  else state.emitText text

/-- What a construct at the head of the text comes to: it is taken in, with the number of characters
it holds, or it is not complete. -/
inductive Taken
  | taken (state : Extraction) (length : Nat)
  | incomplete

/-- The number of characters up to and including the first `>`, if there is one. -/
def throughBracket? (text : Text) : Option Nat :=
  (text.findIdx? (· == '>')).map (· + 1)

/-- A start tag at the head of the text. -/
def takeStartTag (text : Text) (state : Extraction) : Taken :=
  match StartTag.read text with
  | .junk length => .taken (state.onText (text.take length)) length
  | .tag name length true => .taken (state.onEmpty (text.take length) (isBlockName name)) length
  | .tag name length false =>
    let state := if opaqueNames.contains name then { state with opaqueTag := some name } else state
    .taken (state.onStartTag name (text.take length)) length

/-- The name in an end tag that holds nothing else, in lower case. -/
def plainEndTag? (text : Text) : Option Text :=
  let inner := Text.trimLeft (text.drop 2)
  let nameOk (c : Char) : Bool :=
    c.isAlphanum || c == '-' || c == '.' || c == ':' || c == '_'
  match inner with
  | c :: _ =>
    if c.isAlpha && (Text.trimLeft (inner.dropWhile nameOk)).head? = some '>' then
      some (Text.lower (inner.takeWhile nameOk))
    else none
  | [] => none

/-- A construct that is passed through without being read, up to its first `>`. -/
def takeBogus (text : Text) (state : Extraction) : Taken :=
  match throughBracket? (text.drop 2) with
  | none => .incomplete
  | some length => .taken (state.onEmpty (text.take (length + 2)) false) (length + 2)

/-- An end tag at the head of the text. -/
def takeEndTag (text : Text) (state : Extraction) : Taken :=
  match throughBracket? text with
  | none => .incomplete
  | some length =>
    match plainEndTag? text with
    | some name =>
      if state.opaqueTag.any (· ≠ name) then .taken (state.onText (text.take length)) length
      else .taken { state.onEndTag name with opaqueTag := none } length
    | none =>
      if state.opaqueTag.isSome then .taken (state.onText (text.take length)) length
      else if text[2]? = some '>' then .taken state 3
      else if !(text[2]?.any Char.isAlpha) then takeBogus text state
      else .taken (state.onEndTag (StartTag.name (text.drop 2)).1) length

/-- The inside of a construct up to the first place where `close?` finds its end, and the text
behind that end. -/
def splitAtEnd? (close? : Text → Option Text) : Text → Option (Text × Text)
  | [] => none
  | c :: rest =>
    match close? (c :: rest) with
    | some after => some ([], after)
    | none => (splitAtEnd? close? rest).map fun (inside, after) => (c :: inside, after)

/-- What is left after two dashes, blanks and a `>`. -/
def afterCommentEnd? (text : Text) : Option Text :=
  (Text.dropPrefix? ['-', '-'] text).bind fun rest => Text.dropPrefix? ['>'] (Text.trimLeft rest)

/-- What is left after two closing brackets and a `>`, with blanks between them. -/
def afterSectionEnd? (text : Text) : Option Text :=
  (Text.dropPrefix? [']'] text).bind fun rest =>
    (Text.dropPrefix? [']'] (Text.trimLeft rest)).bind fun rest =>
      Text.dropPrefix? ['>'] (Text.trimLeft rest)

/-- A construct that is written anew as a block: `opening` characters are skipped, and the inside is
put between `before` and `after`. -/
def takeRewritten (opening : Nat) (close? : Text → Option Text) (before after : Text) (text : Text)
    (state : Extraction) : Taken :=
  match splitAtEnd? close? (text.drop opening) with
  | none => .incomplete
  | some (inside, rest) =>
    .taken (state.onEmpty (before ++ inside ++ after) true) (text.length - rest.length)

/-- A declaration at the head of the text. -/
def takeDeclaration (text : Text) (state : Extraction) : Taken :=
  if !(state.atLineStart || state.behindBlock) then .taken (state.onText ['<', '!']) 2
  else if Text.startsWith "<![CDATA[".toList text then
    takeRewritten 3 afterSectionEnd? "<![".toList "]]>".toList text state
  else if Text.startsWith "<![".toList text then
    match takeBogus text state with
    | .taken state length => .taken state length
    | .incomplete => .taken (state.onText ['<']) 1
  else if Text.lower (text.take 9) = "<!doctype".toList then
    match throughBracket? (text.drop 9) with
    | none => .incomplete
    | some length => .taken (state.onEmpty (text.take (length + 9)) true) (length + 9)
  else takeBogus text state

/-- A construct that begins with a less-than sign. -/
def takeMarkup (text : Text) (state : Extraction) : Taken :=
  match text with
  | '<' :: '/' :: _ => takeEndTag text state
  | '<' :: '!' :: '-' :: '-' :: _ =>
    takeRewritten 4 afterCommentEnd? "<!--".toList "-->".toList text state
  | '<' :: '?' :: _ =>
    if state.atLineStart || state.behindBlock then
      takeRewritten 2 (Text.dropPrefix? ['?', '>']) "<?".toList "?>".toList text state
    else .taken (state.onText ['<', '?']) 2
  | '<' :: '!' :: _ => takeDeclaration text state
  | '<' :: c :: _ =>
    if c.isAlpha then takeStartTag text state else .taken (state.onText ['<']) 1
  | _ => .incomplete

/-- The digits of a numeric reference, with the mark of a hexadecimal one. -/
def numericReference? (text : Text) : Option Text :=
  let isHex (c : Char) : Bool :=
    c.isDigit || ('a' ≤ c && c ≤ 'f') || ('A' ≤ c && c ≤ 'F')
  let closed (digits rest : Text) : Option Text :=
    if !digits.isEmpty && rest.head?.any (fun c => !isHex c) then some digits else none
  match text.drop 2 with
  | c :: rest =>
    if c = 'x' ∨ c = 'X' then
      (closed (rest.takeWhile isHex) (rest.dropWhile isHex)).map (c :: ·)
    else
      closed ((c :: rest).takeWhile Char.isDigit) ((c :: rest).dropWhile Char.isDigit)
  | [] => none

/-- The name of a named reference with its semicolon. -/
def namedReference? (text : Text) : Option Text :=
  let inner := text.drop 1
  let nameOk (c : Char) : Bool := c.isAlphanum || c == '-' || c == '.'
  if inner.head?.any Char.isAlpha && (inner.dropWhile nameOk).head? = some ';' then
    some (inner.takeWhile nameOk)
  else none

/-- What a step of the extraction comes to: it goes on behind some text, or the pass is over and
`rest` is left of the text. -/
inductive Step
  | onward (state : Extraction) (rest : Text)
  | stop (state : Extraction) (rest : Text)

/-- A reference, or a lone ampersand, at the head of the text. -/
def takeReference (text : Text) (state : Extraction) : Step :=
  match text with
  | '&' :: '#' :: _ =>
    match numericReference? text with
    | some name =>
      let after := text.drop (2 + name.length)
      let used := 2 + name.length + (if after.head? = some ';' then 1 else 0)
      let state := state.onEmpty ('&' :: '#' :: name ++ [';']) false
      .onward (state.pass (text.take used)) (text.drop used)
    | none =>
      if text.contains ';' then
        .stop ((state.onText ['&', '#']).pass ['&', '#']) (text.drop 2)
      else .stop state text
  | _ =>
    match namedReference? text with
    | some name =>
      let reference := '&' :: name ++ [';']
      .onward ((state.onEmpty reference false).pass reference) (text.drop reference.length)
    | none =>
      if 2 ≤ text.length then .onward ((state.onText ['&']).pass ['&']) (text.drop 1)
      else .stop state text

/-- Whether a text begins with the end tag of the element `name`, in any case. -/
def beginsEndTag (name text : Text) : Bool :=
  match Text.dropPrefix? ['<', '/'] text with
  | none => false
  | some rest =>
    let rest := Text.trimLeft rest
    Text.lower (rest.take name.length) = name &&
      (Text.trimLeft (rest.drop name.length)).head? = some '>'

/-- The text up to the next construct, and the text from there on; nothing if the content of an
opaque element is not closed. -/
def splitAtConstruct? (opaqueTag : Option Text) (text : Text) : Option (Text × Text) :=
  match opaqueTag with
  | none =>
    some (text.takeWhile (fun c => c ≠ '<' ∧ c ≠ '&'), text.dropWhile (fun c => c ≠ '<' ∧ c ≠ '&'))
  | some name =>
    (splitAtEnd? (fun rest => if beginsEndTag name rest then some rest else none) text)

/-- One step of a pass. In the final pass, incomplete constructs are taken as text. -/
def step (final : Bool) (state : Extraction) (text : Text) : Step :=
  match splitAtConstruct? state.opaqueTag text with
  | none => .stop state text
  | some (before, rest) =>
    let state := if before.isEmpty then state else (state.onText before).pass before
    match rest with
    | [] => .stop state []
    | '<' :: _ =>
      if rest.length = 1 then .stop state rest
      else
        match takeMarkup rest state with
        | .taken state length => .onward (state.pass (rest.take length)) (rest.drop length)
        | .incomplete =>
          if !final then .stop state rest
          else
            let length :=
              match throughBracket? (rest.drop 1) with
              | some length => length + 1
              | none =>
                match (rest.drop 1).findIdx? (· == '<') with
                | some offset => offset + 1
                | none => 1
            let junk := rest.take length
            .onward ((state.onText junk).pass junk) (rest.drop length)
    | _ => takeReference rest state

/-- The steps of a pass, up to `steps` of them. -/
def run (final : Bool) : (steps : Nat) → Extraction → Text → Extraction × Text
  | 0, state, text => (state, text)
  | steps + 1, state, text =>
    if text.isEmpty then (state, text)
    else
      match step final state text with
      | .onward state rest => run final steps state rest
      | .stop state rest => (state, rest)

/-- A whole pass; the text it leaves is the text of the next pass. -/
def runPass (final : Bool) (state : Extraction) : Extraction :=
  let (state, rest) := run final (state.source.length + 1) state state.source
  if final && !rest.isEmpty && state.opaqueTag.isNone then
    { (state.onText rest).pass rest with source := [] }
  else { state with source := rest }

end Extraction

/-- A source with its HTML blocks set aside. -/
def extractBlocks (source : Text) : Run :=
  let state := (({ source } : Extraction).runPass false).runPass true
  let state := if state.source.isEmpty then state else state.onText state.source
  let state := if state.block.isEmpty then state else state.emitBlock
  state.chunks.reverse.flatten

end ScriptSite.Markdown
