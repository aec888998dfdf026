import ScriptSite.Proofs.Markdown.Block
import ScriptSite.Proofs.Markdown.Inline
import ScriptSite.Proofs.Markdown.Layout
import ScriptSite.Proofs.Markdown.Normal
import ScriptSite.Proofs.Text.Trim

/-!
# Plain prose is rendered as paragraphs

Plain prose goes through the steps of rendering one by one: it is in normal form but for two
newlines at its end, it holds no HTML blocks, its blocks are paragraphs, there is no markup in
these, and they are written with an entity for each quote. What comes out is the HTML of each
paragraph (`render_proseText`), whichever way a quote is taken to face.
-/

namespace ScriptSite.Markdown

variable {c : Char} {text source : Text} {texts : List Text} {above below : Nat}

theorem spread_eq_append (ne_nil : texts ≠ []) (above below : Nat) :
    spread above below texts = List.replicate above '\n' ++
      (Text.joinWith ['\n', '\n'] texts ++ List.replicate below '\n') ++ ['\n', '\n'] := by
  have commute : List.replicate 2 '\n' ++ List.replicate below '\n' =
      List.replicate below '\n' ++ List.replicate 2 '\n' := by
    rw [List.replicate_append_replicate, List.replicate_append_replicate, Nat.add_comm]
  induction texts generalizing above with
  | nil => exact absurd rfl ne_nil
  | cons text texts ih =>
      cases texts with
      | nil =>
          simp only [List.replicate_succ, List.replicate_zero, List.cons_append, List.nil_append]
            at commute
          simp [spread, Text.joinWith, commute]
      | cons second texts =>
          rw [spread, ih (by simp) 0]
          simp [Text.joinWith, List.intercalate_cons_cons]

theorem isProseChar_of_mem_spread (prose : ∀ text ∈ texts, ∀ c ∈ text, isProseChar c = true)
    (mem : c ∈ spread above below texts) : isProseChar c = true := by
  induction texts generalizing above with
  | nil =>
      rw [List.eq_of_mem_replicate mem]
      decide
  | cons text texts ih =>
      rcases List.forall_mem_cons.mp prose with ⟨first, others⟩
      simp only [spread, List.mem_append, List.mem_cons] at mem
      rcases mem with inNewlines | inText | rfl | rfl | later
      · rw [List.eq_of_mem_replicate inNewlines]
        decide
      · exact first c inText
      · decide
      · decide
      · exact ih others later

theorem exists_visible_mem_spread (ne_nil : texts ≠ []) (tight : ∀ text ∈ texts, IsTight text)
    (above below : Nat) : ∃ c ∈ spread above below texts, isBlank c = false := by
  cases texts with
  | nil => exact absurd rfl ne_nil
  | cons text texts =>
      rcases (tight text List.mem_cons_self).exists_cons with ⟨c, rest, rfl, visible⟩
      refine ⟨c, ?_, visible⟩
      simp [spread]

/-- No space stands in front of a text with no blanks at its ends. -/
theorem IsTight.isFlush (tight : IsTight text) : IsFlush ('\n' :: text) := by
  apply List.isChain_cons.mpr
  constructor
  · rintro _ mem - rfl
    rcases tight.begins with ⟨c, first, visible⟩
    rw [Option.mem_unique first mem] at visible
    exact absurd visible (by decide)
  · apply tight.spaced.imp
    rintro c d apart rfl rfl
    exact absurd apart (by decide)

theorem IsFlush.newlines (flush : IsFlush ('\n' :: text)) (count : Nat) :
    IsFlush ('\n' :: (List.replicate count '\n' ++ text)) := by
  induction count with
  | zero => exact flush
  | succ count ih => exact List.isChain_cons_cons.mpr ⟨by decide, ih⟩

theorem isFlush_spread (tight : ∀ text ∈ texts, IsTight text) (above below : Nat) :
    IsFlush ('\n' :: spread above below texts) := by
  induction texts generalizing above with
  | nil =>
      have newlines : IsFlush ('\n' :: (List.replicate below '\n' ++ [])) :=
        IsFlush.newlines (List.isChain_singleton '\n') below
      rwa [List.append_nil] at newlines
  | cons text texts ih =>
      have textTight := tight text List.mem_cons_self
      have later := ih (fun other mem => tight other (List.mem_cons_of_mem _ mem)) 0
      apply IsFlush.newlines
      refine List.isChain_append.mpr ⟨textTight.isFlush, ?_, ?_⟩
      · exact later.newlines 1
      · intro c _ d mem _
        rw [← Option.mem_unique (List.head?_cons ..) mem]
        decide

/-- The HTML of paragraphs begins and ends with a tag, so there is nothing to trim. -/
theorem trim_unlines_shownParagraph (ne_nil : texts ≠ []) :
    Text.trim (Text.unlines (texts.map shownParagraph)) =
      Text.unlines (texts.map shownParagraph) := by
  have tags : ∃ inner, Text.unlines (texts.map shownParagraph) = '<' :: (inner ++ ['>']) := by
    apply exists_intercalate_eq
    · simpa using ne_nil
    · intro part mem
      rcases List.mem_map.mp mem with ⟨text, _, rfl⟩
      refine ⟨['p', '>'] ++ (text.flatMap plainEntity ++ ['<', '/', 'p']), ?_⟩
      simp [shownParagraph]
  rcases tags with ⟨inner, equal⟩
  rw [equal, Text.trim, Text.trimLeft_cons_of_visible (by decide), ← List.cons_append,
    Text.trimRight_append_of_visible (by decide)]
  rfl

/-- A source with nothing in it but paragraphs gives the HTML of these paragraphs. -/
theorem renderFacing_of_spread (ne_nil : texts ≠ []) (tight : ∀ text ∈ texts, IsTight text)
    (spreads : source ++ ['\n', '\n'] = spread above below texts) (facing : FacingRule) :
    renderFacing facing source = Text.unlines (texts.map shownParagraph) := by
  have prose : ∀ text ∈ texts, ∀ c ∈ text, isProseChar c = true :=
    fun text mem => (tight text mem).prose
  have unmarked : ∀ text ∈ texts, IsUnmarked text := fun text mem => (tight text mem).toIsUnmarked
  have wholeProse : ∀ c ∈ source ++ ['\n', '\n'], isProseChar c = true := by
    rw [spreads]
    exact fun c mem => isProseChar_of_mem_spread prose mem
  have notBlank : Text.allBlank source = false := by
    rcases exists_visible_mem_spread ne_nil tight above below with ⟨c, mem, visible⟩
    rw [← spreads, List.mem_append] at mem
    rcases mem with inSource | inNewlines
    · exact Text.allBlank_eq_false_iff.mpr ⟨c, inSource, visible⟩
    · have newline : c = '\n' := by simpa using inNewlines
      exact absurd newline.symm (newline_ne_of_visible visible)
  have normal : normalize source = source ++ ['\n', '\n'] := by
    apply normalize_of_flush fun c mem => wholeProse c (List.mem_append_left _ mem)
    rw [spreads]
    exact (isFlush_spread tight above below).tail
  have noBlocks : extractBlocks (source ++ ['\n', '\n']) = Run.ofText (source ++ ['\n', '\n']) := by
    apply extractBlocks_of_notMem
    · exact notMem_of_isProseChar wholeProse (by decide)
    · exact notMem_of_isProseChar wholeProse (by decide)
    · simp
  rw [renderFacing, notBlank, normal, noBlocks, spreads, parseBlocks_spread tight]
  dsimp only
  rw [searchTree_documentOf [] unmarked, setLines_documentOf ne_nil, finishLines_pageOf,
    finishText_pageOf, innerHtml_pageOf ne_nil prose, trim_documentHtml ne_nil,
    runText_expandAll_documentHtml ne_nil, trim_unlines_shownParagraph ne_nil]
  rfl

/-- Each paragraph of plain prose is rendered as a paragraph with entities for its quotes and
nothing else changed, by whatever rule quotes are taken to face one way or the other. -/
theorem render_proseText {paragraphs : List (List (List Text))} (above below : Nat)
    (ne_nil : paragraphs ≠ []) (plain : ∀ lines ∈ paragraphs, IsPlainParagraph lines) :
    render (proseText above below paragraphs) =
        Text.unlines (paragraphs.map fun lines => shownParagraph (paragraphText lines)) ∧
      ∀ facing : FacingRule, renderFacing facing (proseText above below paragraphs) =
        Text.unlines (paragraphs.map fun lines => shownParagraph (paragraphText lines)) := by
  have texts_ne_nil : paragraphs.map paragraphText ≠ [] := by simpa using ne_nil
  have tight : ∀ text ∈ paragraphs.map paragraphText, IsTight text := by
    intro text mem
    rcases List.mem_map.mp mem with ⟨lines, linesMem, rfl⟩
    exact (plain lines linesMem).isTight
  have rendered := renderFacing_of_spread texts_ne_nil tight
    (spread_eq_append texts_ne_nil above below).symm
  rw [List.map_map] at rendered
  exact ⟨rendered fun _ _ => .opening, rendered⟩

/-- A decade, nested quotes that begin on one line and end on the next, and quotes alone. -/
def quotedProse : List (List (List Text)) :=
  [[["the".toList, "'80s".toList, "\"'Tis".toList], ["don't'\"".toList]],
    [["''".toList, "\"".toList]]]

theorem render_quotedProse :
    (quotedProse ≠ [] ∧ ∀ lines ∈ quotedProse, IsPlainParagraph lines) ∧
      render (proseText 1 3 quotedProse) =
        ("<p>the &apos;80s &quot;&apos;Tis\ndon&apos;t&apos;&quot;</p>\n" ++
          "<p>&apos;&apos; &quot;</p>").toList := by
  have plain : quotedProse ≠ [] ∧ ∀ lines ∈ quotedProse, IsPlainParagraph lines := by decide
  exact ⟨plain, (render_proseText 1 3 plain.1 plain.2).1⟩

end ScriptSite.Markdown
