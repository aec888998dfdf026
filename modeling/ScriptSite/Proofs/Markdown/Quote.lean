import ScriptSite.Markdown.Render

/-!
# Quotes look the same whichever way they face

Every quote in running text is written as an entity, and the table has an entity for each way a
quote can face. Which way that is depends on what stands around the quote, by rules of some
subtlety: opening and closing quotes, quotes in quotes, apostrophes and abbreviated decades are told
apart. In `plainQuotes` the two entities of a quote are the same, so whatever the rule says of a
quote, the quote is written alike (`writeQuotes_plainQuotes`), and so is the whole of a source
(`renderFacing_eq_render`).
-/

namespace ScriptSite.Markdown

/-- A glyph of running text as it is written: a quote as its plain entity, any other as it is. -/
def plainGlyph (glyph : Glyph) : Glyph :=
  if glyph.is '\'' then .raw (Run.ofText "&apos;".toList)
  else if glyph.is '"' then .raw (Run.ofText "&quot;".toList)
  else glyph

/-- A character is one quote, the other, or written as it is. -/
theorem quote_or_plainGlyph_eq (c : Char) :
    c = '\'' ∨ c = '"' ∨ c ≠ '\'' ∧ c ≠ '"' ∧ plainGlyph (.char c) = .char c := by
  by_cases single : c = '\''
  · exact Or.inl single
  · by_cases double : c = '"'
    · exact Or.inr (Or.inl double)
    · refine Or.inr (Or.inr ⟨single, double, ?_⟩)
      have notSingle : (Glyph.char c).is '\'' = false := beq_eq_false_iff_ne.mpr (Ne.symm single)
      have notDouble : (Glyph.char c).is '"' = false := beq_eq_false_iff_ne.mpr (Ne.symm double)
      rw [plainGlyph, notSingle, notDouble]
      rfl

theorem single_plainQuotes (facing : Facing) : plainQuotes.single facing = "&apos;".toList := by
  cases facing <;> rfl

theorem double_plainQuotes (facing : Facing) : plainQuotes.double facing = "&quot;".toList := by
  cases facing <;> rfl

theorem writeQuotes_plainQuotes (facing : FacingRule) (passed run : Run) :
    writeQuotes facing plainQuotes passed run = run.map plainGlyph := by
  induction run generalizing passed with
  | nil => rfl
  | cons glyph run ih =>
      rw [writeQuotes, ih, single_plainQuotes, double_plainQuotes]
      rfl

mutual

theorem finishText_plainQuotes (facing other : FacingRule) : ∀ element : Element,
    element.finishText facing plainQuotes = element.finishText other plainQuotes
  | .mk tag attributes lead children tail => by
      rw [Element.finishText, Element.finishText, finishTextOfChildren_plainQuotes facing other,
        writeQuotes_plainQuotes, writeQuotes_plainQuotes, writeQuotes_plainQuotes,
        writeQuotes_plainQuotes]

theorem finishTextOfChildren_plainQuotes (facing other : FacingRule) : ∀ children : List Element,
    finishTextOfChildren facing plainQuotes children =
      finishTextOfChildren other plainQuotes children
  | [] => rfl
  | child :: rest => by
      rw [finishTextOfChildren, finishTextOfChildren, finishText_plainQuotes facing other,
        finishTextOfChildren_plainQuotes facing other]

end

/-- A source gives the same HTML whichever way its quotes are taken to face. -/
theorem renderFacing_eq_render (facing : FacingRule) (source : Text) :
    renderFacing facing source = render source := by
  rw [render, renderFacing, renderFacing]
  dsimp only
  rw [finishText_plainQuotes facing]

end ScriptSite.Markdown
