import ScriptSite.Page.Fragment
import ScriptSite.Page.Frame
import ScriptSite.Source.Title

/-!
# Example pages

The page of a source shows its segments in their order and, below them, the complete script that its
code makes up.
-/

namespace ScriptSite.Page

/-- The heading above the complete script. -/
def scriptHeading : Text :=
  "<h2 id=\"complete-script\">Complete Script</h2>".toList

/-- The lines of an example page, given its title and its fragments. -/
def exampleLines (title siteName script : Text) (fragments : List Text) : List Text :=
  header title 1 siteName true ++ fragments ++
    ["<br/>".toList, "<hr/>".toList, scriptHeading, codeBlock script 0] ++ footer 1

/-- The page of a source. A source without a title has none. -/
def example? (source siteName : Text) : Except PageError Text := do
  let some title := Source.title? source | .error .untitled
  let segments := Source.segments source
  let fragments ← segments.mapM Segment.html
  return finish (exampleLines title siteName (Source.completeScript segments) fragments)

end ScriptSite.Page
