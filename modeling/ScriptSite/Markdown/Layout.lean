import ScriptSite.Markdown.Inline

/-!
# Layout

The last changes to a tree before it is written: block elements are set on lines of their own,
quotes in running text become entities, and protected characters become ordinary ones.
-/

namespace ScriptSite.Markdown

def newline : Run := [.char '\n']

mutual

/-- An element with line breaks around its block-level children and behind itself. -/
def Element.setLines : Element → Element
  | .mk tag attributes lead children tail =>
    let tail := if Run.allBlank tail then newline else tail
    if tag.isBlock && tag ≠ .preformatted then
      let lead :=
        if Run.allBlank lead && (children.head?.any fun child => child.tag.isBlock) then newline
        else lead
      .mk tag attributes lead (setChildLines children) tail
    else .mk tag attributes lead children tail

/-- Elements with line breaks set in and behind those that are blocks. -/
def setChildLines : List Element → List Element
  | [] => []
  | child :: rest =>
    (if child.tag.isBlock then child.setLines else child) :: setChildLines rest

end

/-- The children of an element with the tag `tag`, the first of which ends in one newline if it is a
block of code. -/
def finishCode (tag : Tag) : List Element → List Element
  | [] => []
  | .mk childTag attributes lead children tail :: rest =>
    if tag = .preformatted ∧ childTag = .code ∧ children.isEmpty ∧ !lead.isEmpty then
      .mk childTag attributes (Run.trimRight lead ++ [.verbatim '\n']) children tail :: rest
    else .mk childTag attributes lead children tail :: rest

mutual

/-- An element with a newline behind each line break, and with a single newline at the end of each
block of code. -/
def Element.finishLines : Element → Element
  | .mk tag attributes lead children tail =>
    let tail :=
      if tag = .lineBreak then (if Run.allBlank tail then newline else .char '\n' :: tail) else tail
    .mk tag attributes lead (finishCode tag (finishChildLines children)) tail

def finishChildLines : List Element → List Element
  | [] => []
  | child :: rest => child.finishLines :: finishChildLines rest

end

/-- The way a quote faces. -/
inductive Facing
  | opening
  | closing
  deriving DecidableEq, Repr

/-- Tells the way a quote faces from the glyphs before it, in reverse order, and those behind it.
The sequence of patterns that usually decides this is not spelled out: no rule makes a difference to
what is written with `plainQuotes`, and `render` takes every quote for an opening one. -/
abbrev FacingRule := (passed rest : Run) → Facing

/-- The entities that are written for quotes in running text, for each way they can face. -/
structure QuoteEntities where
  single : Facing → Text
  double : Facing → Text

/-- Quotes are written as the plain entities, whichever way they face: opening and closing quotes,
nested quotes and apostrophes look the same. -/
def plainQuotes : QuoteEntities where
  single
    | .opening => "&apos;".toList
    | .closing => "&apos;".toList
  double
    | .opening => "&quot;".toList
    | .closing => "&quot;".toList

/-- A run with its quotes written as entities, one by one, as the rule says that they face. `passed`
holds the glyphs before it in reverse order. -/
def writeQuotes (facing : FacingRule) (quotes : QuoteEntities) (passed : Run) : Run → Run
  | [] => []
  | glyph :: rest =>
    let written : Glyph :=
      if glyph.is '\'' then .raw (Run.ofText (quotes.single (facing passed rest)))
      else if glyph.is '"' then .raw (Run.ofText (quotes.double (facing passed rest)))
      else glyph
    written :: writeQuotes facing quotes (glyph :: passed) rest

mutual

/-- An element with its quotes written as entities, and then with its protected characters made
ordinary. Code keeps what stands in it. -/
def Element.finishText (facing : FacingRule) (quotes : QuoteEntities) : Element → Element
  | .mk tag attributes lead children tail =>
    let lead := writeQuotes facing quotes [] lead
    .mk tag (attributes.map fun (key, value) => (key, unprotect value))
      (if tag = .code then lead else unprotect lead) (finishTextOfChildren facing quotes children)
      (unprotect (writeQuotes facing quotes [] tail))

def finishTextOfChildren (facing : FacingRule) (quotes : QuoteEntities) :
    List Element → List Element
  | [] => []
  | child :: rest => child.finishText facing quotes :: finishTextOfChildren facing quotes rest

end

end ScriptSite.Markdown
