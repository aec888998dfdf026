import Mathlib.Algebra.Ring.Nat
import ScriptSite.Page.Catalog
import ScriptSite.Proofs.Html.Tag
import ScriptSite.Proofs.Text.Occurrence

/-!
# What the index lists

A reader finds the rows of the index by the marks that begin them, and the links of its table with
their addresses and texts. Names, and the name of the site, are escaped, so whatever they are they
add nothing. Tags and descriptions are put into the page as they are: each mark of a row or of a
link in them is one more of its kind (`occurrences_index`), a quote in a tag ends the address, and
an entity in it is read as a character. The index lists its entries, one row and one link for each
of them in their order, exactly if none of this happens (`listsEntries_index_iff`).
-/

namespace ScriptSite.Page

variable {known : List (Text × Char)} {mark : Text} {entry : CatalogEntry}
  {entries : List CatalogEntry}

/-- What a row begins with. -/
def rowMark : Text :=
  "<tr>".toList

/-- What a link begins with, up to its address. -/
def linkMark : Text :=
  "<a href=\"".toList

def tableOpening : Text :=
  "<table class=\"toc\">".toList

def tableClosing : Text :=
  "</table>".toList

/-- What stands between the address of a link and the line with its text. -/
def addressEnd : Text :=
  "\">\n".toList

/-- The table of a page, from the first place where one opens to the last where one closes. -/
def tableOf? (page : Text) : Option Text :=
  (Text.splitFirst? tableOpening page).bind fun (_, below) =>
    (Text.splitLast? tableClosing below).map fun (table, _) => table

/-- The address and the text of a link, given what stands behind its mark. -/
def linkOf (known : List (Text × Char)) (behind : Text) : Text × Option Text :=
  (Html.quotedValue known behind,
    (Text.dropPrefix? addressEnd (behind.dropWhile (· ≠ '"'))).map fun rest =>
      let text := rest.takeWhile (· ≠ '<')
      Html.decodeWith known text.length text)

/-- The address of the page of an entry, as seen from the index. -/
def address (entry : CatalogEntry) : Text :=
  entry.tag ++ '/' :: (entry.tag ++ '.' :: "html".toList)

/-- Whether a page has a row for each of some entries, and in its table a link to the page of each
with its name, in their order. -/
structure ListsEntries (known : List (Text × Char)) (entries : List CatalogEntry) (page : Text) :
    Prop where
  rows : Text.occurrences rowMark page = entries.length
  links : (tableOf? page).map (fun table => (Text.behindEach linkMark table).map (linkOf known)) =
    some (entries.map fun entry => (address entry, some entry.name))

/-- Whether nothing in an entry is taken for something else. -/
structure IsPlain (known : List (Text × Char)) (entry : CatalogEntry) : Prop where
  noQuote : '"' ∉ entry.tag
  noEntity : ∀ entity ∈ known, ¬entity.1 <:+: entry.tag
  noRow : ¬rowMark <:+: entry.tag ∧ ¬rowMark <:+: entry.description
  noLink : ¬linkMark <:+: entry.description

/-- How often a mark occurs in what the row of an entry holds unescaped. -/
def added (mark : Text) (entry : CatalogEntry) : Nat :=
  2 * Text.occurrences mark entry.tag + Text.occurrences mark entry.description

def rowOpening : Text :=
  "<tr><td>\n<a href=\"".toList

def nameEnd : Text :=
  "</a></td>\n<td>".toList

def rowClosing : Text :=
  "</td></tr>\n".toList

/-- What stands in the row of an entry behind the mark of its link. -/
def belowLink (entry : CatalogEntry) : Text :=
  address entry ++ (addressEnd ++ (Html.escape entry.name ++ (nameEnd ++ (entry.description ++
    rowClosing))))

theorem flatMap_indexRow (entry : CatalogEntry) :
    (indexRow entry).flatMap (· ++ ['\n']) = rowOpening ++ belowLink entry := by
  have opening : rowOpening = "<tr><td>".toList ++ '\n' :: "<a href=\"".toList := by decide
  have closing : ".html\">".toList = '.' :: "html".toList ++ "\">".toList := by decide
  have addressEndIs : addressEnd = "\">".toList ++ ['\n'] := by decide
  have nameEndIs : nameEnd = "</a></td>".toList ++ '\n' :: "<td>".toList := by decide
  have rowClosingIs : rowClosing = "</td></tr>".toList ++ ['\n'] := by decide
  rw [belowLink, opening, addressEndIs, nameEndIs, rowClosingIs, indexRow, closing, address]
  generalize "<tr><td>".toList = a, "<a href=\"".toList = b, "html".toList = c, "\">".toList = d,
    "</a></td>".toList = e, "<td>".toList = f, "</td></tr>".toList = g
  simp only [List.flatMap_cons, List.flatMap_nil, List.append_assoc, List.cons_append,
    List.nil_append, List.append_nil]

def rowText (entry : CatalogEntry) : Text :=
  rowOpening ++ belowLink entry

theorem rowOpening_atEnd : ∃ c ∈ ['"', 'l', '\n', '>'], rowOpening.getLast? = some c :=
  ⟨'"', by decide, by decide⟩

theorem rowText_atEnd (entry : CatalogEntry) :
    ∃ c ∈ ['"', 'l', '\n', '>'], (rowText entry).getLast? = some c := by
  have last : rowClosing.getLast? = some '\n' := by decide
  refine ⟨'\n', by decide, ?_⟩
  simp only [rowText, belowLink, List.getLast?_append, last, Option.some_or]

/-- Whether a mark occurs once in every row and is found in one part of it or not at all. -/
structure IsRowMark (mark : Text) : Prop where
  begins : mark.head? = some '<'
  inside : '<' ∉ mark.tail
  noSeparator : '/' ∉ mark ∧ '.' ∉ mark
  noneAtEnd : ['"', 'l', '\n', '>'].all (· ∉ mark.dropLast) = true
  once : Text.occurrences mark rowOpening = 1
  notInNameEnd : Text.occurrences mark nameEnd = 0
  notInClosing : Text.occurrences mark rowClosing = 0

theorem isRowMark_rowMark : IsRowMark rowMark := by
  constructor <;> decide

theorem isRowMark_linkMark : IsRowMark linkMark := by
  constructor <;> decide

theorem occurrences_address {m : Char} (begins : mark.head? = some m) (notHtml : m ∉ "html".toList)
    (noSeparator : '/' ∉ mark ∧ '.' ∉ mark) (entry : CatalogEntry) :
    Text.occurrences mark (address entry) = 2 * Text.occurrences mark entry.tag := by
  have nonempty : mark ≠ [] := by
    rintro rfl
    simp at begins
  have html : Text.occurrences mark "html".toList = 0 := by
    rw [Text.occurrences_eq_zero_iff nonempty]
    exact Text.not_infix_of_head?_notMem begins notHtml
  rw [address, Text.occurrences_append_cons nonempty noSeparator.1,
    Text.occurrences_append_cons nonempty noSeparator.2, html]
  omega

namespace IsRowMark

theorem nonempty (isMark : IsRowMark mark) : mark ≠ [] := by
  rintro rfl
  simpa using isMark.begins

/-- A mark of rows is not in a text without brackets. -/
theorem occurrences_eq_zero (isMark : IsRowMark mark) {text : Text} (noBracket : '<' ∉ text) :
    Text.occurrences mark text = 0 := by
  rw [Text.occurrences_eq_zero_iff isMark.nonempty]
  exact Text.not_infix_of_head?_notMem isMark.begins noBracket

theorem noneAcross (isMark : IsRowMark mark) {left : Text}
    (atEnd : ∃ c ∈ ['"', 'l', '\n', '>'], left.getLast? = some c) (right : Text) :
    Text.NoneAcross mark left right := by
  rcases atEnd with ⟨c, mem, last⟩
  have notMem := of_decide_eq_true (List.all_eq_true.mp isMark.noneAtEnd c mem)
  exact Text.noneAcross_of_getLast? last notMem right

/-- What stands in a row behind the mark of its link has the marks that its entry adds. -/
theorem occurrences_belowLink (isMark : IsRowMark mark) (entry : CatalogEntry) :
    Text.occurrences mark (belowLink entry) = added mark entry := by
  have lastOfAddress : ∃ c ∈ ['"', 'l', '\n', '>'], (address entry).getLast? = some c :=
    ⟨'l', by decide, by simp [address, List.getLast?_append, List.getLast?_cons]⟩
  have inAddress := occurrences_address isMark.begins (by decide) isMark.noSeparator entry
  have inAddressEnd : Text.occurrences mark addressEnd = 0 := isMark.occurrences_eq_zero (by decide)
  have inName := isMark.occurrences_eq_zero (Html.lt_notMem_escape entry.name)
  have nameApart : Text.NoneAcross mark (Html.escape entry.name)
      (nameEnd ++ (entry.description ++ rowClosing)) :=
    Text.noneAcross_of_head? rfl isMark.inside _
  have descriptionApart : Text.NoneAcross mark entry.description rowClosing :=
    Text.noneAcross_of_head? rfl isMark.inside _
  rw [belowLink, Text.occurrences_append (isMark.noneAcross lastOfAddress _),
    Text.occurrences_append (isMark.noneAcross ⟨'\n', by decide, by decide⟩ _),
    Text.occurrences_append nameApart,
    Text.occurrences_append (isMark.noneAcross ⟨'>', by decide, by decide⟩ _),
    Text.occurrences_append descriptionApart,
    inAddress, inAddressEnd, inName, isMark.notInNameEnd, isMark.notInClosing, added]
  omega

theorem occurrences_rowText (isMark : IsRowMark mark) (entry : CatalogEntry) :
    Text.occurrences mark (rowText entry) = 1 + added mark entry := by
  rw [rowText, Text.occurrences_append (isMark.noneAcross rowOpening_atEnd _), isMark.once,
    isMark.occurrences_belowLink]

/-- The rows of a table have a mark for each entry, and those that the entries add. -/
theorem occurrences_rows (isMark : IsRowMark mark) (entries : List CatalogEntry) :
    Text.occurrences mark (entries.flatMap rowText) =
      entries.length + (entries.map (added mark)).sum := by
  induction entries with
  | nil => rfl
  | cons entry entries ih =>
      rw [List.flatMap_cons, Text.occurrences_append (isMark.noneAcross (rowText_atEnd entry) _),
        isMark.occurrences_rowText, ih]
      simp only [List.length_cons, List.map_cons, List.sum_cons]
      omega

end IsRowMark

/-- The links of a table are read one by one if the entries add none. -/
theorem map_behindEach_rows {α : Type} {f : Text → α} {g : CatalogEntry → α}
    (none : ∀ entry ∈ entries, added linkMark entry = 0)
    (each : ∀ entry ∈ entries, ∀ rest, f (belowLink entry ++ rest) = g entry) :
    (Text.behindEach linkMark (entries.flatMap rowText)).map f = entries.map g := by
  induction entries with
  | nil => rfl
  | cons entry entries ih =>
      have later := ih (fun other mem => none other (List.mem_cons_of_mem _ mem))
        (fun other mem => each other (List.mem_cons_of_mem _ mem))
      have absent : Text.behindEach linkMark (belowLink entry) = [] := by
        rw [← List.length_eq_zero_iff, ← Text.occurrences, isRowMark_linkMark.occurrences_belowLink,
          none entry List.mem_cons_self]
      have opening : Text.behindEach linkMark rowOpening = [[]] := by decide
      have row : Text.behindEach linkMark (rowText entry) = [belowLink entry] := by
        rw [rowText, Text.behindEach_append (isRowMark_linkMark.noneAcross rowOpening_atEnd _),
          absent, opening]
        rfl
      rw [List.flatMap_cons,
        Text.behindEach_append (isRowMark_linkMark.noneAcross (rowText_atEnd entry) _), row]
      simp only [List.map_cons, List.map_nil, List.singleton_append]
      rw [each entry List.mem_cons_self, later]

def headOpening : Text :=
  "<html><head>\n<title>".toList

def headMiddle : Text :=
  " Example: Index</title>\n".toList ++
    "<link rel=\"stylesheet\" href=\"examples.css\" type=\"text/css\">\n".toList ++
    "</head><body><div id=\"pagecontainer\">\n<h1>".toList

def headEnd : Text :=
  " Examples</h1>\n".toList

/-- What stands before the table of the index. -/
def indexHead (siteName : Text) : Text :=
  headOpening ++ (Html.escape siteName ++ (headMiddle ++ (Html.escape siteName ++ headEnd)))

/-- What stands behind the table of the index. -/
def indexFoot : Text :=
  '\n' :: (["<hr/>".toList] ++ license ".".toList ++ [closing]).flatMap (· ++ ['\n'])

/-- The line that loads the style of the index. -/
def sheetLine : Text :=
  "<link rel=\"stylesheet\" href=\"".toList ++ upwards 0 ++
    "examples.css\" type=\"text/css\">".toList

theorem flatMap_indexHead (siteName : Text) :
    (header "Index".toList 0 siteName false ++
      [catalogHeading siteName " Examples".toList]).flatMap (· ++ ['\n']) = indexHead siteName := by
  have lines : header "Index".toList 0 siteName false ++
      [catalogHeading siteName " Examples".toList] = ["<html><head>".toList,
        titleLine siteName "Index".toList, sheetLine,
        "</head><body><div id=\"pagecontainer\">".toList,
        catalogHeading siteName " Examples".toList] := rfl
  have openingIs : headOpening = "<html><head>".toList ++ '\n' :: "<title>".toList := by decide
  have middleIs : headMiddle = " Example: ".toList ++ (Html.escape "Index".toList ++
      ("</title>".toList ++ '\n' :: (sheetLine ++ '\n' ::
        ("</head><body><div id=\"pagecontainer\">".toList ++ '\n' :: "<h1>".toList)))) := by
    unfold headMiddle sheetLine
    repeat rw [String.toList_ofList]
    rfl
  have endIs : headEnd = " Examples".toList ++ ("</h1>".toList ++ ['\n']) := by decide
  rw [lines]
  unfold titleLine catalogHeading indexHead
  rw [openingIs, middleIs, endIs]
  generalize "<html><head>".toList = a, "<title>".toList = b, " Example: ".toList = c,
    "</title>".toList = d, "</head><body><div id=\"pagecontainer\">".toList = f, "<h1>".toList = g,
    " Examples".toList = h, "</h1>".toList = i, Html.escape "Index".toList = j, sheetLine = e
  simp only [List.flatMap_cons, List.flatMap_nil, List.append_assoc, List.cons_append,
    List.nil_append, List.append_nil]

theorem index_eq (entries : List CatalogEntry) (siteName : Text) :
    index entries siteName = indexHead siteName ++ (tableOpening ++
      ('\n' :: entries.flatMap rowText ++ (tableClosing ++ indexFoot))) := by
  have rows : (entries.flatMap indexRow).flatMap (· ++ ['\n']) = entries.flatMap rowText := by
    rw [List.flatMap_assoc]
    exact congrArg (entries.flatMap ·) (funext flatMap_indexRow)
  have lines : index entries siteName = finish (header "Index".toList 0 siteName false ++
      [catalogHeading siteName " Examples".toList] ++ ([tableOpening] ++ entries.flatMap indexRow ++
      [tableClosing]) ++ ["<hr/>".toList] ++ license ".".toList ++ [closing]) := rfl
  rw [lines, finish_eq_flatMap (by simp), ← flatMap_indexHead, indexFoot, ← rows]
  generalize tableOpening = opening, tableClosing = close, "<hr/>".toList = rule
  simp only [List.flatMap_append, List.flatMap_cons, List.flatMap_nil, List.append_assoc,
    List.cons_append, List.nil_append]

/-- Neither a row nor a table begins above the table of the index. -/
theorem isClear_indexHead (mem : mark ∈ [rowMark, tableOpening]) (siteName : Text) :
    Text.isClear mark (indexHead siteName) = true := by
  have each : ∀ mark ∈ [rowMark, tableOpening], mark.head? = some '<' ∧
      Text.isClear mark headOpening = true ∧ Text.isClear mark headMiddle = true ∧
      Text.isClear mark headEnd = true := by
    unfold rowMark tableOpening headOpening headMiddle headEnd
    repeat rw [String.toList_ofList]
    decide +kernel
  rcases each mark mem with ⟨begins, opening, middle, ending⟩
  have name := Text.isClear_of_head?_notMem begins (Html.lt_notMem_escape siteName)
  exact Text.isClear_append opening (Text.isClear_append name
    (Text.isClear_append middle (Text.isClear_append name ending)))

/-- No row begins where the table closes or below it, and no table closes below it. -/
theorem isClear_indexFoot :
    Text.isClear rowMark (tableClosing ++ indexFoot) = true ∧
      Text.isClear tableClosing (tableClosing.tail ++ indexFoot) = true := by
  unfold rowMark tableClosing indexFoot license licenseAddress closing
  repeat rw [String.toList_ofList]
  decide +kernel

/-- The page of the index has a row for each entry, and those that the entries add. -/
theorem occurrences_index (entries : List CatalogEntry) (siteName : Text) :
    Text.occurrences rowMark (index entries siteName) =
      entries.length + (entries.map (added rowMark)).sum := by
  have opening : Text.isClear rowMark (tableOpening ++ ['\n']) = true := by decide
  have above := Text.isClear_append (isClear_indexHead List.mem_cons_self siteName) opening
  have below : Text.occurrences rowMark (tableClosing ++ indexFoot) = 0 := by
    rw [Text.occurrences_eq_zero_iff isRowMark_rowMark.nonempty]
    exact Text.not_infix_of_isClear isClear_indexFoot.1 isRowMark_rowMark.nonempty
  have page : index entries siteName = indexHead siteName ++ (tableOpening ++ ['\n']) ++
      (entries.flatMap rowText ++ (tableClosing ++ indexFoot)) := by
    rw [index_eq]
    simp only [List.append_assoc, List.cons_append, List.nil_append]
  rw [page, Text.occurrences, Text.behindEach_append_of_isClear above, ← Text.occurrences,
    Text.occurrences_append (Text.noneAcross_of_head? rfl isRowMark_rowMark.inside _),
    isRowMark_rowMark.occurrences_rows, below, Nat.add_zero]

/-- The table of the index holds its rows. -/
theorem tableOf?_index (entries : List CatalogEntry) (siteName : Text) :
    tableOf? (index entries siteName) = some ('\n' :: entries.flatMap rowText) := by
  have last := Text.not_infix_of_isClear isClear_indexFoot.2 (by decide)
  have cut : Text.splitLast? tableClosing ('\n' :: entries.flatMap rowText ++
      (tableClosing ++ indexFoot)) = some ('\n' :: entries.flatMap rowText, indexFoot) :=
    Text.splitLast?_append last _
  have above : Text.isClear tableOpening (indexHead siteName) = true :=
    isClear_indexHead (List.mem_cons_of_mem _ List.mem_cons_self) siteName
  rw [tableOf?, index_eq, Text.splitFirst?_append_of_isClear above, Option.bind_some]
  simp only [cut, Option.map_some]

theorem linkOf_address (known : List (Text × Char)) (entry : CatalogEntry) (rest : Text) :
    (linkOf known (belowLink entry ++ rest)).1 = Html.quotedValue known (address entry) := by
  have quote : addressEnd = '"' :: addressEnd.tail := by decide
  rw [linkOf, belowLink, quote, List.append_assoc]
  exact Html.quotedValue_append known (address entry) _

theorem linkOf_text (table : Html.IsTable known) (noQuote : '"' ∉ address entry) (rest : Text) :
    (linkOf known (belowLink entry ++ rest)).2 = some entry.name := by
  have whole : belowLink entry ++ rest = address entry ++ (addressEnd ++ (Html.escape entry.name ++
      (nameEnd ++ (entry.description ++ (rowClosing ++ rest))))) := by
    simp only [belowLink, List.append_assoc]
  have inAddress : ∀ c ∈ address entry, decide (c ≠ '"') = true := by
    intro c mem
    rw [decide_eq_true_eq]
    rintro rfl
    exact noQuote mem
  have inName : ∀ c ∈ Html.escape entry.name, decide (c ≠ '<') = true := by
    intro c mem
    rw [decide_eq_true_eq]
    rintro rfl
    exact Html.lt_notMem_escape entry.name mem
  rw [linkOf, whole, Text.dropWhile_append_stop inAddress rfl, Text.dropPrefix?_eq_some_iff.mpr rfl,
    Option.map_some, Text.takeWhile_append_stop inName rfl, table.decodeWith_escape]

/-- An address is read as it is exactly if there is no quote and no entity in the tag. -/
theorem quotedValue_address_iff (table : Html.IsTable known) :
    Html.quotedValue known (address entry) = address entry ↔
      '"' ∉ entry.tag ∧ ∀ entity ∈ known, ¬entity.1 <:+: entry.tag := by
  have quote : '"' ∈ address entry ↔ '"' ∈ entry.tag := by simp [address]
  have within : ∀ entity ∈ known, (¬entity.1 <:+: address entry ↔ ¬entity.1 <:+: entry.tag) := by
    intro entity mem
    have nonempty : entity.1 ≠ [] := by
      rcases table.spelled entity mem with ⟨name, spelled, _⟩
      simp [spelled]
    have twice := occurrences_address (table.head? entity mem) (by decide)
      ⟨table.notMem mem (by decide) (by decide), table.notMem mem (by decide) (by decide)⟩ entry
    rw [← Text.occurrences_eq_zero_iff nonempty, ← Text.occurrences_eq_zero_iff nonempty, twice]
    omega
  rw [Html.quotedValue_eq_self_iff table.longer, quote]
  constructor
  · rintro ⟨noQuote, plain⟩
    exact ⟨noQuote, fun entity mem => (within entity mem).mp (plain entity mem)⟩
  · rintro ⟨noQuote, plain⟩
    exact ⟨noQuote, fun entity mem => (within entity mem).mpr (plain entity mem)⟩

theorem added_eq_zero_iff (nonempty : mark ≠ []) :
    added mark entry = 0 ↔ ¬mark <:+: entry.tag ∧ ¬mark <:+: entry.description := by
  rw [← Text.occurrences_eq_zero_iff nonempty, ← Text.occurrences_eq_zero_iff nonempty, added]
  omega

theorem sum_added_eq_zero_iff :
    (entries.map (added mark)).sum = 0 ↔ ∀ entry ∈ entries, added mark entry = 0 := by
  simp [List.sum_eq_zero_iff_forall_eq_nat]

/-- A link begins with a text that ends with a quote. -/
theorem quote_mem_of_linkMark {text : Text} (occurs : linkMark <:+: text) : '"' ∈ text :=
  occurs.subset (by decide)

theorem IsPlain.added_linkMark (plain : IsPlain known entry) : added linkMark entry = 0 := by
  rw [added_eq_zero_iff isRowMark_linkMark.nonempty]
  exact ⟨fun occurs => plain.noQuote (quote_mem_of_linkMark occurs), plain.noLink⟩

/-- The index lists its entries exactly if all of them are plain. -/
theorem listsEntries_iff_isPlain (table : Html.IsTable known) (siteName : Text) :
    ListsEntries known entries (index entries siteName) ↔
      ∀ entry ∈ entries, IsPlain known entry := by
  have below : Text.behindEach linkMark ('\n' :: entries.flatMap rowText) =
      Text.behindEach linkMark (entries.flatMap rowText) :=
    Text.behindEach_append_of_isClear (by decide : Text.isClear linkMark ['\n'] = true) _
  constructor
  · intro lists
    have noRow : ∀ entry ∈ entries, added rowMark entry = 0 := by
      have rows := lists.rows
      rw [occurrences_index] at rows
      exact sum_added_eq_zero_iff.mp (by omega)
    have links := lists.links
    rw [tableOf?_index, Option.map_some, Option.some.injEq, below] at links
    have noLink : ∀ entry ∈ entries, added linkMark entry = 0 := by
      have count := congrArg List.length links
      rw [List.length_map, List.length_map, ← Text.occurrences,
        isRowMark_linkMark.occurrences_rows] at count
      exact sum_added_eq_zero_iff.mp (by omega)
    have addresses := congrArg (List.map Prod.fst) links
    rw [List.map_map, List.map_map,
      map_behindEach_rows noLink fun entry _ rest => linkOf_address known entry rest,
      List.map_inj_left] at addresses
    intro entry mem
    rcases (quotedValue_address_iff table).mp (addresses entry mem) with ⟨noQuote, noEntity⟩
    exact ⟨noQuote, noEntity, (added_eq_zero_iff isRowMark_rowMark.nonempty).mp (noRow entry mem),
      ((added_eq_zero_iff isRowMark_linkMark.nonempty).mp (noLink entry mem)).2⟩
  · intro plain
    constructor
    · have noRow : ∀ entry ∈ entries, added rowMark entry = 0 := fun entry mem =>
        (added_eq_zero_iff isRowMark_rowMark.nonempty).mpr (plain entry mem).noRow
      rw [occurrences_index, sum_added_eq_zero_iff.mpr noRow, Nat.add_zero]
    · rw [tableOf?_index, Option.map_some, below,
        map_behindEach_rows fun entry mem => (plain entry mem).added_linkMark]
      intro entry mem rest
      have noQuote : '"' ∉ address entry := by
        simpa [address] using (plain entry mem).noQuote
      have read := (quotedValue_address_iff table).mpr
        ⟨(plain entry mem).noQuote, (plain entry mem).noEntity⟩
      exact Prod.ext ((linkOf_address known entry rest).trans read) (linkOf_text table noQuote rest)

/-- The index has one row for each entry, and one for each mark of a row that a tag, which stands in
it twice, or a description holds; and it lists its entries exactly if all of them are plain. -/
theorem listsEntries_index_iff (table : Html.IsTable known) (entries : List CatalogEntry)
    (siteName : Text) :
    Text.occurrences rowMark (index entries siteName) =
        entries.length + (entries.map (added rowMark)).sum ∧
      (ListsEntries known entries (index entries siteName) ↔
        ∀ entry ∈ entries, IsPlain known entry) :=
  ⟨occurrences_index entries siteName, listsEntries_iff_isPlain table siteName⟩

/-- Entries with an ampersand in a tag, a name that looks like a row, and markup in a
description. -/
def markedEntries : List CatalogEntry :=
  [⟨"a&b".toList, "</a><tr>&amp;\"".toList, "<b>x</b>".toList⟩, ⟨"c".toList, [], []⟩]

/-- The index lists entries with markup in their names and descriptions. -/
theorem listsEntries_markedEntries :
    Html.IsTable Html.entities ∧ (∀ entry ∈ markedEntries, IsPlain Html.entities entry) ∧
      ListsEntries Html.entities markedEntries (index markedEntries "<tr>".toList) := by
  have plain : ∀ entry ∈ markedEntries, IsPlain Html.entities entry := by
    have quotes : ∀ entry ∈ markedEntries, '"' ∉ entry.tag := by decide
    have rest : ∀ entry ∈ markedEntries, (∀ entity ∈ Html.entities, ¬entity.1 <:+: entry.tag) ∧
        (¬rowMark <:+: entry.tag ∧ ¬rowMark <:+: entry.description) ∧
        ¬linkMark <:+: entry.description := by
      unfold markedEntries Html.entities rowMark linkMark
      repeat rw [String.toList_ofList]
      decide
    intro entry mem
    exact ⟨quotes entry mem, (rest entry mem).1, (rest entry mem).2.1, (rest entry mem).2.2⟩
  exact ⟨Html.isTable_entities, plain,
    (listsEntries_index_iff Html.isTable_entities _ _).2.mpr plain⟩

/-- An entry with a quote in its tag. -/
def quotedEntry : CatalogEntry :=
  ⟨"a\"b".toList, "A".toList, "x".toList⟩

/-- The index does not link the page of an entry with a quote in its tag. -/
theorem not_listsEntries_quotedEntry :
    ¬ListsEntries Html.entities [quotedEntry] (index [quotedEntry] defaultSiteName) := by
  intro lists
  have plain := (listsEntries_iff_isPlain Html.isTable_entities _).mp lists _ List.mem_cons_self
  have quote : '"' ∈ quotedEntry.tag := by decide
  exact plain.noQuote quote

end ScriptSite.Page
