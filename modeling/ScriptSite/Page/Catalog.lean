import ScriptSite.Catalog.Entry
import ScriptSite.Markdown.Render
import ScriptSite.Page.Frame

/-!
# Catalog pages

The index is a table with a row for each example, which links to the page of the example and holds
the description as it is. The gallery of demos shows each description as markup.
-/

namespace ScriptSite.Page

/-- The rows of the index for an entry: a link to its page, and its description. -/
def indexRow (entry : CatalogEntry) : List Text :=
  ["<tr><td>".toList,
    "<a href=\"".toList ++ entry.tag ++ ['/'] ++ entry.tag ++ ".html\">".toList,
    Html.escape entry.name ++ "</a></td>".toList,
    "<td>".toList ++ entry.description ++ "</td></tr>".toList]

/-- The lines of the gallery for an entry. -/
def demoLines (entry : CatalogEntry) : List Text :=
  ["<div class='bubbles'>".toList,
    "<h2>".toList ++ Html.escape entry.name ++ "</h2>".toList,
    Markdown.render entry.description,
    "</div>".toList]

def catalogHeading (siteName subject : Text) : Text :=
  "<h1>".toList ++ Html.escape siteName ++ subject ++ "</h1>".toList

/-- A page in the directory of the index, with the given lines below its heading. -/
def catalogPage (siteName subject : Text) (lines : List Text) : Text :=
  finish (header "Index".toList 0 siteName false ++ [catalogHeading siteName subject] ++ lines ++
    ["<hr/>".toList] ++ license ".".toList ++ [closing])

/-- The index of the examples. -/
def index (entries : List CatalogEntry) (siteName : Text) : Text :=
  catalogPage siteName " Examples".toList
    (["<table class=\"toc\">".toList] ++ entries.flatMap indexRow ++ ["</table>".toList])

/-- The gallery of the demos. -/
def demos (entries : List CatalogEntry) (siteName : Text) : Text :=
  catalogPage siteName " Demo Applications".toList (entries.flatMap demoLines)

end ScriptSite.Page
