import ScriptSite.Markdown.Layout
import ScriptSite.Markdown.RawBlock

/-!
# Rendering

A source is turned into HTML in steps: the text is normalised, HTML blocks are set aside, blocks are
read, inline markup is found, the lines are set, and the tree is written with the raw HTML put back
in its place. `renderFacing` takes the steps for a given rule about the way quotes face, and
`render` for one such rule.
-/

namespace ScriptSite.Markdown

/-- A text with each tab replaced by spaces up to the next column that is a multiple of the
indentation; `column` is the column of its first character. -/
def expandTabs (column : Nat) : Text → Text
  | [] => []
  | c :: rest =>
    if c = '\t' then
      let width := indentWidth - column % indentWidth
      List.replicate width ' ' ++ expandTabs (column + width) rest
    else if c = '\n' then c :: expandTabs 0 rest
    else c :: expandTabs (column + 1) rest

/-- The lines of a text, of which all but the first are emptied if they hold spaces only. -/
def emptySpaceLines (lines : List Text) : List Text :=
  match lines with
  | [] => []
  | first :: rest => first :: rest.map fun line => if line.all (· == ' ') then [] else line

/-- A source in normal form: without the two controls that delimit numbers of protected characters,
with plain newlines, two of them at the end, without tabs, and with empty blank lines. -/
def normalize (source : Text) : Text :=
  let source := source.filter fun c => c.toNat ≠ 2 ∧ c.toNat ≠ 3
  let source := expandTabs 0 (Text.normalizeNewlines source ++ ['\n', '\n'])
  Text.unlines (emptySpaceLines (Text.lines source))

/-- The name that a piece of HTML begins with, behind its bracket. -/
def leadingName (html : Run) : Run :=
  match Run.dropPrefix? ['<'] html with
  | none => []
  | some rest =>
    let rest := (Run.dropPrefix? ['/'] rest).getD rest
    rest.takeWhile fun glyph => !(glyph.is ' ' || glyph.is '>')

/-- Whether a piece of HTML is a block: it begins with a block-level tag, a comment, a declaration
or the like. -/
def isBlockHtml (html : Run) : Bool :=
  match leadingName html with
  | [] => false
  | first :: rest =>
    first.satisfies (fun c => c == '!' || c == '?' || c == '@' || c == '%') ||
      (Run.text? (first :: rest)).any isBlockName

/-- A run with its raw glyphs replaced by their HTML. A paragraph that holds nothing but a block is
replaced as a whole. -/
def expandRaw : Run → Run
  | .char '<' :: .char 'p' :: .char '>' :: .raw html :: .char '<' :: .char '/' :: .char 'p' ::
      .char '>' :: rest =>
    if isBlockHtml html then html ++ expandRaw rest
    else Run.ofText "<p>".toList ++ html ++ Run.ofText "</p>".toList ++ expandRaw rest
  | .raw html :: rest => html ++ expandRaw rest
  | glyph :: rest => glyph :: expandRaw rest
  | [] => []

/-- A run with its raw glyphs replaced until there are none, at most `depth` times. -/
def expandAll : (depth : Nat) → Run → Run
  | 0, run => run
  | depth + 1, run => expandAll depth (expandRaw run)

/-- The characters of a finished run. -/
def runText (run : Run) : Text :=
  run.flatMap fun glyph =>
    match glyph with
    | .ampersand => ['&']
    | glyph => spelledOut [glyph]

/-- The HTML of a source, where `facing` tells which way quotes face. -/
def renderFacing (facing : FacingRule) (source : Text) : Text :=
  if Text.allBlank source then []
  else
    let (tree, definitions) := parseBlocks (extractBlocks (normalize source))
    let tree := (searchTree definitions tree).setLines.finishLines.finishText facing plainQuotes
    let html := Run.trim tree.innerHtml
    Text.trim (runText (expandAll (depthOfRun html) html))

/-- The HTML of a source. Both ways a quote can face are written alike, so the patterns that tell
them apart are left out and all quotes are taken for opening ones here. -/
def render (source : Text) : Text :=
  renderFacing (fun _ _ => .opening) source

end ScriptSite.Markdown
