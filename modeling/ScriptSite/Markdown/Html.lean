import ScriptSite.Markdown.Glyph

/-!
# Elements as HTML

The HTML of an element, as a run in which text is escaped and raw glyphs still stand for their
HTML. An ampersand that begins an entity is kept, so that entities in a source reach the reader as
entities.
-/

namespace ScriptSite.Markdown

/-- Whether a character can stand in the name of an entity. Case does not matter, so the four
letters beyond ASCII whose other case is an ASCII letter belong to it. -/
def isEntityNameChar (c : Char) : Bool :=
  c.isAlphanum || c.toNat == 0x130 || c.toNat == 0x131 || c.toNat == 0x17F || c.toNat == 0x212A

/-- Whether a run, which follows an ampersand, begins with the rest of an entity. -/
def entityFollows (run : Run) : Bool :=
  let shown (p : Char → Bool) (glyph : Glyph) : Bool := glyph.shown?.any p
  let closes (p : Char → Bool) (run : Run) : Bool :=
    (run.head?.any (shown p)) && ((run.dropWhile (shown p)).head?.any (shown (· == ';')))
  let isHex (c : Char) : Bool :=
    c.isDigit || ('a' ≤ c && c ≤ 'f') || ('A' ≤ c && c ≤ 'F')
  match run with
  | [] => false
  | first :: rest =>
    if shown (· == '#') first then
      closes Char.isDigit rest ||
        (rest.head?.any (shown fun c => c == 'x' || c == 'X') && closes isHex (rest.drop 1))
    else closes isEntityNameChar run

/-- A run as it stands in an element or, with `quotes`, in an attribute. -/
def escapeRun (quotes : Bool) : Run → Run
  | [] => []
  | glyph :: rest =>
    let written : Run :=
      match glyph.shown? with
      | some '&' => if entityFollows rest then [.char '&'] else Run.ofText "&amp;".toList
      | some '<' => Run.ofText "&lt;".toList
      | some '>' => Run.ofText "&gt;".toList
      | some '"' => if quotes then Run.ofText "&quot;".toList else [.char '"']
      | _ => [glyph]
    written ++ escapeRun quotes rest

def startTag (tag : Tag) (attributes : List (Attribute × Run)) : Run :=
  let written := attributes.flatMap fun (key, value) =>
    Run.ofText (' ' :: key.name ++ ['=', '"']) ++ escapeRun true value ++ [.char '"']
  Run.ofText ('<' :: tag.name) ++ written ++
    Run.ofText (if tag.isVoid then [' ', '/', '>'] else ['>'])

def endTag (tag : Tag) : Run :=
  if tag.isVoid then [] else Run.ofText ('<' :: '/' :: tag.name ++ ['>'])

mutual

/-- The HTML of an element and of the run that follows it. -/
def Element.html : Element → Run
  | .mk tag attributes lead children tail =>
    startTag tag attributes ++ escapeRun false lead ++ htmlOfChildren children ++ endTag tag ++
      escapeRun false tail

/-- The HTML of elements in their order. -/
def htmlOfChildren : List Element → Run
  | [] => []
  | child :: rest => child.html ++ htmlOfChildren rest

end

def Element.innerHtml (element : Element) : Run :=
  escapeRun false element.lead ++ htmlOfChildren element.children

end ScriptSite.Markdown
