import ScriptSite.Page.Catalog
import ScriptSite.Proofs.Html.Escape
import ScriptSite.Proofs.Page.Example
import ScriptSite.Proofs.Text.Occurrence

/-!
# What the head of a page says

A reader finds the title of a page between the first marks for it, and the heading of a catalog page
likewise. These are the marks of the frame: above them stand only lines that are always the same,
and names without brackets, since names are escaped. So the name of the site and the title of a
source are read back as they are, whatever they hold (`titleOf?_finish_header`,
`headingOf?_catalogPage`).
-/

namespace ScriptSite

namespace Text

variable {opening closing before value : Text}

/-- What stands between the first place of one mark and the first place of another one. -/
def between? (opening closing text : Text) : Option Text :=
  (splitFirst? closing text).bind fun (upTo, _) => (splitFirst? opening upTo).map Prod.snd

theorem between?_append (above : isClear opening before = true)
    (inside : isClear closing (before ++ (opening ++ value)) = true) (rest : Text) :
    between? opening closing (before ++ (opening ++ (value ++ (closing ++ rest)))) =
      some value := by
  have whole : before ++ (opening ++ (value ++ (closing ++ rest))) =
      before ++ (opening ++ value) ++ (closing ++ rest) := by
    simp only [List.append_assoc]
  rw [between?, whole, splitFirst?_append_of_isClear inside, Option.bind_some]
  simp only [splitFirst?_append_of_isClear above, Option.map_some]

end Text

namespace Page

def titleOpening : Text :=
  "<title>".toList

def titleClosing : Text :=
  "</title>".toList

def headingOpening : Text :=
  "<h1>".toList

def headingClosing : Text :=
  "</h1>".toList

/-- The title that a reader of a page sees. -/
def titleOf? (page : Text) : Option Text :=
  (Text.between? titleOpening titleClosing page).map Html.decodeEntities

/-- The heading that a reader of a page sees. -/
def headingOf? (page : Text) : Option Text :=
  (Text.between? headingOpening headingClosing page).map Html.decodeEntities

theorem titleLine_eq (siteName title : Text) :
    titleLine siteName title = titleOpening ++
      (Html.escape (siteName ++ (" Example: ".toList ++ title)) ++ titleClosing) := by
  have plain : Html.escape " Example: ".toList = " Example: ".toList := by decide +kernel
  unfold titleLine titleOpening titleClosing
  generalize " Example: ".toList = middle, "<title>".toList = opening,
    "</title>".toList = closing at plain ⊢
  simp only [Html.escape_append, plain, List.append_assoc]

/-- The title of a page that begins with a header, whatever follows. -/
theorem titleOf?_finish_header (title : Text) (level : Int) (siteName : Text) (highlighter : Bool)
    (lines : List Text) :
    titleOf? (finish (header title level siteName highlighter ++ lines)) =
      some (siteName ++ (" Example: ".toList ++ title)) := by
  obtain ⟨below, isHeader⟩ : ∃ below, header title level siteName highlighter =
      "<html><head>".toList :: titleLine siteName title :: below := ⟨_, rfl⟩
  let value := Html.escape (siteName ++ (" Example: ".toList ++ title))
  have above : Text.isClear titleOpening ("<html><head>".toList ++ ['\n']) = true := by decide
  have inside : Text.isClear titleClosing
      (("<html><head>".toList ++ ['\n']) ++ (titleOpening ++ value)) = true := by
    apply Text.isClear_append (by decide)
    apply Text.isClear_append (by decide)
    exact Text.isClear_of_head?_notMem rfl (Html.lt_notMem_escape _)
  have found := Text.between?_append above inside ('\n' :: (below ++ lines).flatMap (· ++ ['\n']))
  have page : finish (header title level siteName highlighter ++ lines) =
      ("<html><head>".toList ++ ['\n']) ++ (titleOpening ++ (value ++ (titleClosing ++
        '\n' :: (below ++ lines).flatMap (· ++ ['\n'])))) := by
    rw [isHeader, List.cons_append, List.cons_append, finish_eq_flatMap (by simp)]
    rw [List.flatMap_cons, List.flatMap_cons, titleLine_eq]
    simp only [value, List.append_assoc, List.cons_append, List.nil_append]
  rw [titleOf?, page, found, Option.map_some, Html.decodeEntities_escape]

/-- No heading begins or ends in the header of a catalog page. -/
theorem isClear_header {mark : Text} (mem : mark ∈ [headingOpening, headingClosing])
    (siteName : Text) :
    Text.isClear mark ((header "Index".toList 0 siteName false).flatMap (· ++ ['\n'])) = true := by
  obtain ⟨first, later, isHeader, fixed⟩ : ∃ first later,
      header "Index".toList 0 siteName false =
        first :: titleLine siteName "Index".toList :: later ∧
      ∀ mark ∈ [headingOpening, headingClosing], mark.head? = some '<' ∧
        Text.isClear mark (first ++ ['\n']) = true ∧ Text.isClear mark titleOpening = true ∧
        Text.isClear mark (titleClosing ++ ['\n']) = true ∧
        (later.map (· ++ ['\n'])).all (Text.isClear mark) = true := by
    refine ⟨_, _, rfl, ?_⟩
    -- All that is left are fixed texts, which evaluation can search.
    unfold headingOpening headingClosing titleOpening titleClosing
    repeat rw [String.toList_ofList]
    decide +kernel
  rcases fixed mark mem with ⟨begins, first, opening, closing, later⟩
  have name := Text.isClear_of_head?_notMem begins
    (Html.lt_notMem_escape (siteName ++ (" Example: ".toList ++ "Index".toList)))
  have titled : Text.isClear mark (titleLine siteName "Index".toList ++ ['\n']) = true := by
    rw [titleLine_eq, List.append_assoc, List.append_assoc]
    exact Text.isClear_append opening (Text.isClear_append name closing)
  rw [List.flatMap_def]
  apply Text.isClear_flatten
  simp only [isHeader, List.map_cons, List.all_cons, first, titled, later, Bool.and_self]

theorem catalogHeading_eq (siteName : Text) {subject : Text}
    (plain : Html.escape subject = subject) :
    catalogHeading siteName subject =
      headingOpening ++ (Html.escape (siteName ++ subject) ++ headingClosing) := by
  unfold catalogHeading headingOpening headingClosing
  generalize "<h1>".toList = opening, "</h1>".toList = closing
  simp only [Html.escape_append, plain, List.append_assoc]

/-- The heading of a catalog page, whatever stands below it. -/
theorem headingOf?_catalogPage (siteName : Text) {subject : Text}
    (plain : Html.escape subject = subject) (lines : List Text) :
    headingOf? (catalogPage siteName subject lines) = some (siteName ++ subject) := by
  let value := Html.escape (siteName ++ subject)
  let above := (header "Index".toList 0 siteName false).flatMap (· ++ ['\n'])
  have inside : Text.isClear headingClosing (above ++ (headingOpening ++ value)) = true := by
    apply Text.isClear_append (isClear_header (by simp) siteName)
    apply Text.isClear_append (by decide)
    exact Text.isClear_of_head?_notMem rfl (Html.lt_notMem_escape _)
  let below := lines ++ ["<hr/>".toList] ++ license ".".toList ++ [closing]
  have found := Text.between?_append (isClear_header (by simp) siteName) inside
    ('\n' :: below.flatMap (· ++ ['\n']))
  have page : catalogPage siteName subject lines =
      above ++ (headingOpening ++ (value ++ (headingClosing ++
        '\n' :: below.flatMap (· ++ ['\n'])))) := by
    have isPage : catalogPage siteName subject lines =
        finish (header "Index".toList 0 siteName false ++
          (catalogHeading siteName subject :: below)) := by
      simp only [catalogPage, below, List.append_assoc, List.cons_append, List.nil_append]
    rw [isPage, finish_eq_flatMap (by simp), List.flatMap_append, List.flatMap_cons,
      catalogHeading_eq siteName plain]
    simp only [above, value, List.append_assoc, List.cons_append, List.nil_append]
  rw [headingOf?, page, found, Option.map_some, Html.decodeEntities_escape]

/-- Whatever the site and a source are called, the pages say so in their heads. -/
theorem heads_say_names (siteName : Text) (entries : List CatalogEntry) :
    (∀ source title, Source.title? source = some title → ∃ page,
        example? source siteName = .ok page ∧
          titleOf? page = some (siteName ++ (" Example: ".toList ++ title))) ∧
      titleOf? (index entries siteName) =
        some (siteName ++ (" Example: ".toList ++ "Index".toList)) ∧
      headingOf? (index entries siteName) = some (siteName ++ " Examples".toList) ∧
      titleOf? (demos entries siteName) =
        some (siteName ++ (" Example: ".toList ++ "Index".toList)) ∧
      headingOf? (demos entries siteName) = some (siteName ++ " Demo Applications".toList) := by
  refine ⟨?_, ?_, ?_, ?_, ?_⟩
  · intro source title titled
    rcases exists_example? titled siteName with ⟨fragments, made⟩
    refine ⟨_, made, ?_⟩
    rw [exampleLines, List.append_assoc, List.append_assoc]
    exact titleOf?_finish_header title 1 siteName true _
  · simp only [index, catalogPage, List.append_assoc]
    exact titleOf?_finish_header _ 0 siteName false _
  · exact headingOf?_catalogPage siteName (by decide) _
  · simp only [demos, catalogPage, List.append_assoc]
    exact titleOf?_finish_header _ 0 siteName false _
  · exact headingOf?_catalogPage siteName (by decide) _

/-- A site and a source with names that hold the marks of the frame. -/
def hostileName : Text :=
  "</title><h1>&lt;\"\n".toList

def hostileSource : Text :=
  "/** # '</title>&amp;\n*/".toList

def hostileEntries : List CatalogEntry :=
  [⟨"<title>".toList, "</h1>".toList, "<h1></title>".toList⟩]

/-- The theorem about heads, for these names. -/
theorem heads_say_hostileName :
    Source.title? hostileSource = some "'</title>&amp;".toList ∧
      (∃ page, example? hostileSource hostileName = .ok page ∧
        titleOf? page =
          some (hostileName ++ (" Example: ".toList ++ "'</title>&amp;".toList))) ∧
      headingOf? (index hostileEntries hostileName) =
        some (hostileName ++ " Examples".toList) := by
  have titled : Source.title? hostileSource = some "'</title>&amp;".toList := by decide +kernel
  rcases heads_say_names hostileName hostileEntries with ⟨titles, _, heading, _⟩
  exact ⟨titled, titles _ _ titled, heading⟩

end Page

end ScriptSite
