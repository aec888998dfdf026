import ScriptSite.Html.Escape
import ScriptSite.Markdown.Render
import ScriptSite.Source.Segment

/-!
# Fragments

Each segment becomes one fragment of a page: prose is rendered as markup, code stands in a block
that a highlighter numbers, and a sound file gets a player.
-/

namespace ScriptSite

/-- Why a page cannot be made. -/
inductive PageError
  /-- The source has no title. -/
  | untitled
  /-- A segment names a kind that no page can show. -/
  | unknownKind (name : Text)
  deriving DecidableEq, Repr

namespace Page

/-- What a block of code begins with; lines are counted from one. -/
def codeOpening (firstLine : Int) : Text :=
  "<div class=\"bubbles\">\n<pre class=\"brush: js; first-line: ".toList ++
    Text.ofInt (firstLine + 1) ++ "\">\n".toList

/-- What a block of code ends with. -/
def codeClosing : Text :=
  "\n</pre></div>".toList

/-- A block of code, the first line of which has the number `firstLine`, counted from zero. -/
def codeBlock (code : Text) (firstLine : Int) : Text :=
  codeOpening firstLine ++ Html.escapeCode code ++ codeClosing

/-- What is written for a sound segment that names no file. -/
def absentFile : Text :=
  "None".toList

/-- A player for a sound file. -/
def audioPlayer (file : Text) : Text :=
  "<audio controls>\n  <source src=\"".toList ++ file ++ "\" type=\"audio/ogg\">\n</audio>".toList

end Page

/-- The fragment of a page that shows a segment. -/
def Segment.html (segment : Segment) : Except PageError Text :=
  match segment.kind with
  | .prose => .ok (Markdown.render segment.text)
  | .audio => .ok (Page.audioPlayer (segment.source.getD Page.absentFile))
  | .code => .ok (Page.codeBlock segment.text segment.firstLine)
  | .other name => .error (.unknownKind name)

end ScriptSite
