import ScriptSite.Html.Escape

/-!
# The frame of a page

Every page is a list of lines between a head and a foot. A page that lies `level` directories below
the index reaches the shared files through as many steps upwards.
-/

namespace ScriptSite.Page

/-- The name of a site that has not been given one. -/
def defaultSiteName : Text :=
  "Bipscript".toList

/-- The way from a page to the directory of the index. -/
def upwards (level : Int) : Text :=
  (List.replicate level.toNat "../".toList).flatten

/-- The lines that load the highlighter for code. -/
def highlighterLines (path : Text) : List Text :=
  ["<script type=\"text/javascript\" src=\"".toList ++ path ++ "sh/shCore.js\"></script>".toList,
    "<script type=\"text/javascript\" src=\"".toList ++ path ++
      "sh/shBrushJScript.js\"></script>".toList,
    "<link href=\"".toList ++ path ++
      "sh/shCore.css\" rel=\"stylesheet\" type=\"text/css\"/>".toList,
    "<link href=\"".toList ++ path ++
      "sh/shThemeDefault.css\" rel=\"stylesheet\" type=\"text/css\"/>".toList]

def titleLine (siteName title : Text) : Text :=
  "<title>".toList ++ Html.escape siteName ++ " Example: ".toList ++ Html.escape title ++
    "</title>".toList

/-- The lines that a page begins with. -/
def header (title : Text) (level : Int) (siteName : Text) (highlighter : Bool) : List Text :=
  ["<html><head>".toList, titleLine siteName title,
    "<link rel=\"stylesheet\" href=\"".toList ++ upwards level ++
      "examples.css\" type=\"text/css\">".toList] ++
    (if highlighter then highlighterLines (upwards level) else []) ++
    ["</head><body><div id=\"pagecontainer\">".toList]

/-- The address of the license that the examples are under. -/
def licenseAddress : Text :=
  "http://creativecommons.org/licenses/by-nc-sa/4.0/".toList

/-- The lines that show the license; `directory` is where the directory of images is. -/
def license (directory : Text) : List Text :=
  ["<a rel=\"license\" href=\"".toList ++ licenseAddress ++ "\">".toList,
    "<img alt=\"Creative Commons License\" style=\"float:right;border-width:0\" ".toList,
    "src=\"".toList ++ directory ++ "/img/by-nc-sa.png\" /></a>".toList,
    "<span class=\"fineprint\">This work is licensed under a <a rel=\"license\" ".toList,
    "href=\"".toList ++ licenseAddress ++ "\">".toList,
    ("Creative Commons Attribution-NonCommercial-ShareAlike 4.0 International License</a>." ++
      "</span>").toList]

/-- The line that ends every page. -/
def closing : Text :=
  "</div></body></html>".toList

/-- The directory of the index as seen from a page, without a slash at its end. -/
def indexDirectory (level : Int) : Text :=
  match Text.dropWhileRight (· == '/') (upwards level) with
  | [] => ".".toList
  | path => path

/-- The lines that an example page ends with: links, the start of the highlighter, the license. -/
def footer (level : Int) : List Text :=
  ["<div class=\"centertext\">".toList,
    "<a href=\"".toList ++ upwards level ++ "index.html\">List of All Examples</a>".toList,
    "&bull;".toList,
    "<a href=\"".toList ++ upwards level ++ "demos.html\">Demo Applications</a></div><br/>".toList,
    "<hr/><script type=\"text/javascript\">".toList,
    "SyntaxHighlighter.defaults['toolbar'] = false;".toList,
    "SyntaxHighlighter.all()</script>".toList] ++
    license (indexDirectory level) ++ [closing]

/-- The page that has these lines. -/
def finish (lines : List Text) : Text :=
  Text.unlines lines ++ ['\n']

/-- Every line of a page ends with a newline. -/
theorem finish_eq_flatMap {lines : List Text} (nonempty : lines ≠ []) :
    finish lines = lines.flatMap (· ++ ['\n']) := by
  rcases List.exists_cons_of_ne_nil nonempty with ⟨line, rest, rfl⟩
  induction rest generalizing line with
  | nil => simp [finish, Text.unlines]
  | cons next rest ih =>
      have later := ih next (List.cons_ne_nil next rest)
      rw [finish, Text.unlines] at later
      rw [finish, Text.unlines, List.intercalate_cons_cons, List.flatMap_cons, ← later]
      simp only [List.append_assoc]

end ScriptSite.Page
