import ScriptSite.Text.Basic

/-!
# Runs of glyphs and elements

Text on its way from markup to HTML is a run of glyphs. Most glyphs are single characters that may
still turn out to be markup. The others stand for something that is settled already and that no
rule looks into: a character of code, a character that a backslash protects, a piece of finished
HTML, an element, a text set aside until its line is done.

An element has a tag, attributes, the run before its first child, its children, and the run that
follows it inside its parent.
-/

namespace ScriptSite.Markdown

/-- The kinds of element that markup gives. -/
inductive Tag
  | document
  | paragraph
  | heading (level : Nat)
  | bulletList
  | numberList
  | item
  | quotation
  | preformatted
  | code
  | rule
  | emphasis
  | strong
  | link
  | image
  | lineBreak
  deriving DecidableEq, Repr

namespace Tag

def name : Tag → Text
  | .document => "div".toList
  | .paragraph => "p".toList
  | .heading level => 'h' :: Text.ofNat level
  | .bulletList => "ul".toList
  | .numberList => "ol".toList
  | .item => "li".toList
  | .quotation => "blockquote".toList
  | .preformatted => "pre".toList
  | .code => "code".toList
  | .rule => "hr".toList
  | .emphasis => "em".toList
  | .strong => "strong".toList
  | .link => "a".toList
  | .image => "img".toList
  | .lineBreak => "br".toList

/-- Whether a tag is a block, set on lines of its own. -/
def isBlock : Tag → Bool
  | .code | .emphasis | .strong | .link | .image | .lineBreak => false
  | _ => true

/-- Whether a tag never has content. -/
def isVoid : Tag → Bool
  | .rule | .image | .lineBreak => true
  | _ => false

def isList : Tag → Bool
  | .bulletList | .numberList => true
  | _ => false

end Tag

/-- The attributes that markup can give to an element, in the order of their names. -/
inductive Attribute
  | alt
  | href
  | src
  | title
  deriving DecidableEq, Repr

def Attribute.name : Attribute → Text
  | .alt => "alt".toList
  | .href => "href".toList
  | .src => "src".toList
  | .title => "title".toList

mutual

/-- One position of a run. -/
inductive Glyph
  /-- A character that may be markup. -/
  | char (c : Char)
  /-- A character of code or of an address, never markup. -/
  | verbatim (c : Char)
  /-- A character that a backslash protects from being markup. -/
  | escaped (c : Char)
  /-- The ampersand of an entity that has been written out. -/
  | ampersand
  /-- Finished HTML. -/
  | raw (html : List Glyph)
  /-- A text that is set aside until the rules are through with the run around it. -/
  | held (text : List Glyph)
  /-- An element found in the run. -/
  | element (element : Element)

/-- An element of the document. -/
inductive Element
  | mk (tag : Tag) (attributes : List (Attribute × List Glyph)) (lead : List Glyph)
      (children : List Element) (tail : List Glyph)

end

instance : Inhabited Element := ⟨.mk .document [] [] [] []⟩

mutual

/-- How deep a glyph is nested. -/
def Glyph.depth : Glyph → Nat
  | .raw html => depthOfRun html + 1
  | .held text => depthOfRun text + 1
  | .element element => element.depth + 1
  | _ => 0

/-- How deep the glyphs of an element and behind it are nested. -/
def Element.depth : Element → Nat
  | .mk _ _ lead children tail =>
    max (depthOfRun lead) (max (depthOfChildren children + 1) (depthOfRun tail))

/-- How deep the glyphs of a run are nested. -/
def depthOfRun : List Glyph → Nat
  | [] => 0
  | glyph :: rest => max glyph.depth (depthOfRun rest)

/-- How deep the glyphs of elements are nested. -/
def depthOfChildren : List Element → Nat
  | [] => 0
  | child :: rest => max child.depth (depthOfChildren rest)

end

/-- A run of glyphs. -/
abbrev Run := List Glyph

namespace Glyph

/-- Whether a glyph is the given character and may be markup. -/
def is (c : Char) : Glyph → Bool
  | .char d => c == d
  | _ => false

/-- The character that a glyph shows as it is, if it does. -/
def shown? : Glyph → Option Char
  | .char c | .verbatim c => some c
  | _ => none

/-- Whether a glyph shows a blank. -/
def isBlank (glyph : Glyph) : Bool :=
  glyph.shown?.any ScriptSite.isBlank

/-- Whether a glyph is a character of the class `p` that may be markup. -/
def satisfies (p : Char → Bool) : Glyph → Bool
  | .char c => p c
  | _ => false

end Glyph

namespace Element

def tag : Element → Tag
  | .mk tag _ _ _ _ => tag

/-- The run before the first child. -/
def lead : Element → Run
  | .mk _ _ lead _ _ => lead

def children : Element → List Element
  | .mk _ _ _ children _ => children

/-- The run that follows the element inside its parent. -/
def tail : Element → Run
  | .mk _ _ _ _ tail => tail

/-- An element with a tag and nothing else. -/
def empty (tag : Tag) : Element :=
  .mk tag [] [] [] []

def ofRun (tag : Tag) (lead : Run) : Element :=
  .mk tag [] lead [] []

def withLead (lead : Run) : Element → Element
  | .mk tag attributes _ children tail => .mk tag attributes lead children tail

def withChildren (children : List Element) : Element → Element
  | .mk tag attributes lead _ tail => .mk tag attributes lead children tail

def withTail (tail : Run) : Element → Element
  | .mk tag attributes lead children _ => .mk tag attributes lead children tail

/-- The element with one more child after the others. -/
def append (element child : Element) : Element :=
  element.withChildren (element.children ++ [child])

def last? (element : Element) : Option Element :=
  element.children.getLast?

def replaceLast (element child : Element) : Element :=
  element.withChildren (element.children.dropLast ++ [child])

end Element

namespace Run

/-- The run that shows a text. -/
def ofText (text : Text) : Run :=
  text.map .char

/-- The run that shows a text as code. -/
def verbatim (text : Text) : Run :=
  text.map .verbatim

/-- The text of a run of plain characters, if it is one. -/
def text? (run : Run) : Option Text :=
  run.mapM fun
    | .char c => some c
    | _ => none

/-- What is left of a run after `start`, if it begins with these characters. -/
def dropPrefix? : (start : Text) → Run → Option Run
  | [], run => some run
  | _ :: _, [] => none
  | s :: start, glyph :: run => if glyph.is s then dropPrefix? start run else none

/-- Whether a run begins with these characters. -/
def startsWith (start : Text) (run : Run) : Bool :=
  (dropPrefix? start run).isSome

def trimLeft (run : Run) : Run :=
  run.dropWhile (·.isBlank)

def dropWhileRight (p : Glyph → Bool) (run : Run) : Run :=
  (run.reverse.dropWhile p).reverse

def trimRight (run : Run) : Run :=
  dropWhileRight (·.isBlank) run

def trim (run : Run) : Run :=
  trimRight (trimLeft run)

/-- Whether a run shows nothing but blanks. -/
def allBlank (run : Run) : Bool :=
  run.all (·.isBlank)

/-- The lines of a run, without their newlines. -/
def lines : Run → List Run
  | [] => [[]]
  | glyph :: rest =>
    if glyph.is '\n' then [] :: lines rest
    else
      match lines rest with
      | [] => [[glyph]]
      | line :: more => (glyph :: line) :: more

/-- The run whose lines are given. -/
def unlines (lines : List Run) : Run :=
  [Glyph.char '\n'].intercalate lines

/-- The stretches of a run between its blank lines, that is, between pairs of newlines. -/
def paragraphs : Run → List Run
  | [] => [[]]
  | [glyph] => [[glyph]]
  | first :: second :: rest =>
    if first.is '\n' && second.is '\n' then [] :: paragraphs rest
    else
      match paragraphs (second :: rest) with
      | [] => [[first]]
      | block :: more => (first :: block) :: more

end Run

end ScriptSite.Markdown
