import ScriptSite.Proofs.Markdown.Prose
import ScriptSite.Proofs.Markdown.Quote
import ScriptSite.Proofs.Markdown.Run

/-!
# Plain prose as HTML

A document of paragraphs is laid out as a page with each paragraph on a line of its own
(`setLines_documentOf`), its quotes become finished HTML (`finishText_pageOf`), and it is written
with a tag in front of and behind each paragraph (`innerHtml_pageOf`). Then the finished HTML is put
in, where no entity of a quote is taken for a block, and what comes out is the text of the
paragraphs in their tags (`runText_expandAll_documentHtml`).
-/

namespace ScriptSite.Markdown

variable {text : Text} {texts : List Text} {run : Run}

/-- The text of a paragraph as it is written, with its quotes finished. -/
def shownRun (text : Text) : Run :=
  (Run.ofText text).map plainGlyph

/-- A paragraph on a line of its own. -/
def lineOf (lead : Run) : Element :=
  .mk .paragraph [] lead [] newline

/-- A document with each paragraph on a line of its own. -/
def pageOf (leads : List Run) : Element :=
  .mk .document [] newline (leads.map lineOf) newline

theorem setChildLines_paragraphs (texts : List Text) :
    setChildLines (texts.map paragraphOf) = (texts.map Run.ofText).map lineOf := by
  induction texts with
  | nil => rfl
  | cons text texts ih =>
      rw [List.map_cons, setChildLines, ih]
      simp [paragraphOf, Element.ofRun, Element.tag, Tag.isBlock, Element.setLines, lineOf,
        setChildLines, Run.allBlank]

theorem setLines_documentOf (ne_nil : texts ≠ []) :
    (documentOf texts).setLines = pageOf (texts.map Run.ofText) := by
  cases texts with
  | nil => exact absurd rfl ne_nil
  | cons text texts =>
      have children := setChildLines_paragraphs (text :: texts)
      simp only [documentOf, Element.empty, Element.withChildren, Element.setLines, children]
      rfl

theorem finishChildLines_lines (leads : List Run) :
    finishChildLines (leads.map lineOf) = leads.map lineOf := by
  induction leads with
  | nil => rfl
  | cons lead leads ih =>
      rw [List.map_cons, finishChildLines, ih]
      rfl

theorem finishCode_document (children : List Element) :
    finishCode .document children = children := by
  rcases children with _ | ⟨⟨tag, attributes, lead, inside, tail⟩, rest⟩
  · rfl
  · simp [finishCode]

theorem finishLines_pageOf (leads : List Run) : (pageOf leads).finishLines = pageOf leads := by
  rw [pageOf, Element.finishLines, finishChildLines_lines, finishCode_document]
  rfl

theorem unprotect_shownRun (text : Text) : unprotect (shownRun text) = shownRun text := by
  induction text with
  | nil => rfl
  | cons c text ih =>
      rw [shownRun, Run.ofText_cons, List.map_cons, ← shownRun, unprotect, List.map_cons,
        ← unprotect, ih]
      rcases quote_or_plainGlyph_eq c with rfl | rfl | ⟨_, _, same⟩
      · rfl
      · rfl
      · rw [same]

theorem finishText_lineOf (facing : FacingRule) (text : Text) :
    (lineOf (Run.ofText text)).finishText facing plainQuotes = lineOf (shownRun text) := by
  rw [lineOf, Element.finishText, writeQuotes_plainQuotes, writeQuotes_plainQuotes, ← shownRun,
    unprotect_shownRun]
  rfl

theorem finishTextOfChildren_lines (facing : FacingRule) (texts : List Text) :
    finishTextOfChildren facing plainQuotes ((texts.map Run.ofText).map lineOf) =
      (texts.map shownRun).map lineOf := by
  induction texts with
  | nil => rfl
  | cons text texts ih =>
      rw [List.map_cons, List.map_cons, finishTextOfChildren, finishText_lineOf, ih]
      rfl

theorem finishText_pageOf (facing : FacingRule) (texts : List Text) :
    (pageOf (texts.map Run.ofText)).finishText facing plainQuotes =
      pageOf (texts.map shownRun) := by
  rw [pageOf, Element.finishText, finishTextOfChildren_lines, writeQuotes_plainQuotes]
  rfl

/-- There is nothing to escape in plain prose but quotes, and these are finished. -/
theorem escapeRun_shownRun (prose : ∀ c ∈ text, isProseChar c = true) :
    escapeRun false (shownRun text) = shownRun text := by
  induction text with
  | nil => rfl
  | cons c text ih =>
      rcases List.forall_mem_cons.mp prose with ⟨first, later⟩
      rw [shownRun, Run.ofText_cons, List.map_cons, ← shownRun, escapeRun, ih later]
      rcases quote_or_plainGlyph_eq c with rfl | rfl | ⟨_, double, same⟩
      · rfl
      · rfl
      · have ampersand : c ≠ '&' := ne_of_apply_ne isProseChar (by rw [first]; decide)
        have less : c ≠ '<' := ne_of_apply_ne isProseChar (by rw [first]; decide)
        have greater : c ≠ '>' := ne_of_apply_ne isProseChar (by rw [first]; decide)
        simp [same, Glyph.shown?, ampersand, less, greater, double]

/-- The HTML of a paragraph, with the entities of its quotes still to be put in. -/
def paragraphHtml (text : Text) : Run :=
  Run.ofText "<p>".toList ++ (shownRun text ++ Run.ofText "</p>".toList)

theorem html_lineOf (prose : ∀ c ∈ text, isProseChar c = true) :
    (lineOf (shownRun text)).html = paragraphHtml text ++ newline := by
  have opening : startTag .paragraph [] = Run.ofText "<p>".toList := rfl
  have closing : endTag .paragraph = Run.ofText "</p>".toList := rfl
  rw [lineOf, Element.html, escapeRun_shownRun prose, opening, closing, htmlOfChildren,
    List.append_nil, paragraphHtml, ← List.append_assoc]
  rfl

/-- Parts that are each followed by a separator are parts with separators between them and one
behind the last. -/
theorem flatMap_append_separator {α β : Type} (separator : List β) (part : α → List β)
    {items : List α} (ne_nil : items ≠ []) :
    (items.flatMap fun item => part item ++ separator) =
      separator.intercalate (items.map part) ++ separator := by
  induction items with
  | nil => exact absurd rfl ne_nil
  | cons first items ih =>
      cases items with
      | nil => simp
      | cons second items =>
          rw [List.flatMap_cons, ih (by simp)]
          simp [List.intercalate_cons_cons]

/-- The HTML of a document, with the entities of its quotes still to be put in. -/
def documentHtml (texts : List Text) : Run :=
  newline.intercalate (texts.map paragraphHtml)

theorem htmlOfChildren_lines (prose : ∀ text ∈ texts, ∀ c ∈ text, isProseChar c = true) :
    htmlOfChildren ((texts.map shownRun).map lineOf) =
      texts.flatMap fun text => paragraphHtml text ++ newline := by
  induction texts with
  | nil => rfl
  | cons text texts ih =>
      rcases List.forall_mem_cons.mp prose with ⟨first, later⟩
      rw [List.map_cons, List.map_cons, htmlOfChildren, html_lineOf first, ih later,
        List.flatMap_cons]

theorem innerHtml_pageOf (ne_nil : texts ≠ [])
    (prose : ∀ text ∈ texts, ∀ c ∈ text, isProseChar c = true) :
    (pageOf (texts.map shownRun)).innerHtml = newline ++ (documentHtml texts ++ newline) := by
  rw [documentHtml, ← flatMap_append_separator newline paragraphHtml ne_nil,
    ← htmlOfChildren_lines prose]
  rfl

/-- Parts that all begin and end in the same way begin and end so together. -/
theorem exists_intercalate_eq {α : Type} {first final : α} (separator : List α)
    {parts : List (List α)} (ne_nil : parts ≠ [])
    (each : ∀ part ∈ parts, ∃ inner, part = first :: (inner ++ [final])) :
    ∃ inner, separator.intercalate parts = first :: (inner ++ [final]) := by
  induction parts with
  | nil => exact absurd rfl ne_nil
  | cons part parts ih =>
      rcases each part List.mem_cons_self with ⟨inner, rfl⟩
      cases parts with
      | nil => exact ⟨inner, by simp⟩
      | cons second parts =>
          rcases ih (by simp) fun other mem => each other (List.mem_cons_of_mem _ mem) with
            ⟨later, equal⟩
          refine ⟨inner ++ final :: (separator ++ first :: later), ?_⟩
          rw [List.intercalate_cons_cons, equal]
          simp

theorem exists_documentHtml_eq (ne_nil : texts ≠ []) :
    ∃ inner, documentHtml texts = .char '<' :: (inner ++ [.char '>']) := by
  apply exists_intercalate_eq
  · simpa using ne_nil
  · intro part mem
    rcases List.mem_map.mp mem with ⟨text, _, rfl⟩
    refine ⟨Run.ofText ['p', '>'] ++ (shownRun text ++ Run.ofText ['<', '/', 'p']), ?_⟩
    simp [paragraphHtml]

theorem trim_documentHtml (ne_nil : texts ≠ []) :
    Run.trim (newline ++ (documentHtml texts ++ newline)) = documentHtml texts := by
  rcases exists_documentHtml_eq ne_nil with ⟨inner, equal⟩
  rw [equal, Run.trim, newline, List.singleton_append, Run.trimLeft]
  simp [Run.trimRight, Run.dropWhileRight, isBlank]

/-- What a glyph stands for when finished HTML is put in. -/
def unwrapped : Glyph → Run
  | .raw html => html
  | glyph => [glyph]

theorem expandRaw_of_inline (inline : ∀ html, .raw html ∈ run → isBlockHtml html = false) :
    expandRaw run = run.flatMap unwrapped := by
  fun_induction expandRaw run with
  | case1 html rest block ih =>
      have isInline := inline html (by simp)
      rw [block] at isInline
      exact absurd isInline (by decide)
  | case2 html rest notBlock ih =>
      rw [ih fun other mem => inline other (by simp [mem])]
      simp [unwrapped, Run.ofText]
  | case3 html rest ih =>
      rw [ih fun other mem => inline other (List.mem_cons_of_mem _ mem)]
      rfl
  | case4 glyph rest notParagraph notRaw ih =>
      have same : unwrapped glyph = [glyph] := by
        cases glyph with
        | raw html => exact absurd rfl (notRaw html)
        | _ => rfl
      rw [ih fun other mem => inline other (List.mem_cons_of_mem _ mem), List.flatMap_cons, same]
      rfl
  | case5 => rfl

theorem flatMap_unwrapped_of_notMem (absent : ∀ html, .raw html ∉ run) :
    run.flatMap unwrapped = run := by
  induction run with
  | nil => rfl
  | cons glyph run ih =>
      have same : unwrapped glyph = [glyph] := by
        cases glyph with
        | raw html => exact absurd List.mem_cons_self (absent html)
        | _ => rfl
      rw [List.flatMap_cons, same, ih fun html mem => absent html (List.mem_cons_of_mem _ mem),
        List.singleton_append]

theorem expandAll_of_notMem (absent : ∀ html, .raw html ∉ run) (depth : Nat) :
    expandAll depth run = run := by
  induction depth with
  | zero => rfl
  | succ depth ih =>
      have same : expandRaw run = run := by
        rw [expandRaw_of_inline fun html mem => absurd mem (absent html),
          flatMap_unwrapped_of_notMem absent]
      rw [expandAll, same, ih]

theorem depthOfRun_pos {html : List Glyph} (mem : .raw html ∈ run) : 0 < depthOfRun run := by
  induction run with
  | nil => simp at mem
  | cons glyph run ih =>
      rw [depthOfRun]
      rcases List.mem_cons.mp mem with rfl | later
      · rw [Glyph.depth]
        omega
      · have below := ih later
        omega

/-- Finished HTML that is no block and has no finished HTML in it is put in by one pass. -/
theorem expandAll_of_inline (inline : ∀ html, .raw html ∈ run → isBlockHtml html = false)
    (flat : ∀ html, .raw html ∈ run → ∀ inner, .raw inner ∉ html) :
    expandAll (depthOfRun run) run = run.flatMap unwrapped := by
  cases depth : depthOfRun run with
  | zero =>
      have absent : ∀ html, .raw html ∉ run := by
        intro html mem
        have positive := depthOfRun_pos mem
        omega
      rw [flatMap_unwrapped_of_notMem absent]
      rfl
  | succ depth =>
      rw [expandAll, expandRaw_of_inline inline]
      apply expandAll_of_notMem
      intro inner mem
      rcases List.mem_flatMap.mp mem with ⟨glyph, glyphMem, innerMem⟩
      cases glyph with
      | raw html => exact flat html glyphMem inner innerMem
      | _ => simp [unwrapped] at innerMem

/-- A character of plain prose as HTML shows it. -/
def plainEntity (c : Char) : Text :=
  if c = '\'' then "&apos;".toList else if c = '"' then "&quot;".toList else [c]

/-- The HTML that shows a paragraph of plain prose. -/
def shownParagraph (text : Text) : Text :=
  "<p>".toList ++ text.flatMap plainEntity ++ "</p>".toList

/-- The text of a run with its finished HTML put in. -/
def writtenText (run : Run) : Text :=
  runText (run.flatMap unwrapped)

theorem writtenText_append (left right : Run) :
    writtenText (left ++ right) = writtenText left ++ writtenText right := by
  simp [writtenText, runText]

theorem writtenText_ofText (text : Text) : writtenText (Run.ofText text) = text := by
  induction text with
  | nil => rfl
  | cons c text ih =>
      have split := writtenText_append [.char c] (Run.ofText text)
      rw [ih] at split
      exact split

theorem writtenText_shownRun (text : Text) :
    writtenText (shownRun text) = text.flatMap plainEntity := by
  induction text with
  | nil => rfl
  | cons c text ih =>
      have first : writtenText [plainGlyph (.char c)] = plainEntity c := by
        rcases quote_or_plainGlyph_eq c with rfl | rfl | ⟨single, double, same⟩
        · rfl
        · rfl
        · rw [same, plainEntity, if_neg single, if_neg double]
          rfl
      have split := writtenText_append [plainGlyph (.char c)] (shownRun text)
      rw [ih, first] at split
      exact split

theorem writtenText_paragraphHtml (text : Text) :
    writtenText (paragraphHtml text) = shownParagraph text := by
  rw [paragraphHtml, writtenText_append, writtenText_append, writtenText_ofText,
    writtenText_ofText, writtenText_shownRun, shownParagraph, List.append_assoc]

theorem writtenText_lines (texts : List Text) :
    writtenText (texts.flatMap fun text => paragraphHtml text ++ newline) =
      texts.flatMap fun text => shownParagraph text ++ ['\n'] := by
  induction texts with
  | nil => rfl
  | cons text texts ih =>
      rw [List.flatMap_cons, List.flatMap_cons, writtenText_append, writtenText_append, ih,
        writtenText_paragraphHtml]
      rfl

/-- The HTML of a document is the HTML of its paragraphs, each on a line of its own. -/
theorem writtenText_documentHtml (ne_nil : texts ≠ []) :
    writtenText (documentHtml texts) = Text.unlines (texts.map shownParagraph) := by
  have lines := writtenText_lines texts
  rw [flatMap_append_separator newline paragraphHtml ne_nil, ← documentHtml,
    flatMap_append_separator ['\n'] shownParagraph ne_nil, writtenText_append] at lines
  exact List.append_cancel_right lines

theorem eq_entity_of_mem_shownRun {html : List Glyph} (mem : .raw html ∈ shownRun text) :
    html = Run.ofText "&apos;".toList ∨ html = Run.ofText "&quot;".toList := by
  rcases List.mem_map.mp mem with ⟨glyph, glyphMem, equal⟩
  rcases List.mem_map.mp glyphMem with ⟨c, _, rfl⟩
  rcases quote_or_plainGlyph_eq c with rfl | rfl | ⟨_, _, same⟩
  · exact Or.inl (Glyph.raw.inj equal).symm
  · exact Or.inr (Glyph.raw.inj equal).symm
  · simp [same] at equal

/-- The only finished HTML in a document of plain prose are the entities of its quotes. -/
theorem eq_entity_of_mem_documentHtml {html : List Glyph} (ne_nil : texts ≠ [])
    (mem : .raw html ∈ documentHtml texts) :
    html = Run.ofText "&apos;".toList ∨ html = Run.ofText "&quot;".toList := by
  have inLines : .raw html ∈ documentHtml texts ++ newline := List.mem_append_left _ mem
  rw [documentHtml, ← flatMap_append_separator newline paragraphHtml ne_nil] at inLines
  rcases List.mem_flatMap.mp inLines with ⟨text, _, inLine⟩
  have inParagraph : .raw html ∈ shownRun text := by
    simpa [paragraphHtml, newline, Run.ofText] using inLine
  exact eq_entity_of_mem_shownRun inParagraph

/-- The entities of quotes are no blocks, so putting them in gives the text of the document. -/
theorem runText_expandAll_documentHtml (ne_nil : texts ≠ []) :
    runText (expandAll (depthOfRun (documentHtml texts)) (documentHtml texts)) =
      Text.unlines (texts.map shownParagraph) := by
  rw [expandAll_of_inline, ← writtenText, writtenText_documentHtml ne_nil]
  · intro html mem
    rcases eq_entity_of_mem_documentHtml ne_nil mem with rfl | rfl <;> rfl
  · intro html mem inner
    rcases eq_entity_of_mem_documentHtml ne_nil mem with rfl | rfl <;> simp [Run.ofText]

end ScriptSite.Markdown
