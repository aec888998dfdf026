import ScriptSite.Markdown.Glyph
import ScriptSite.Proofs.Text.Lines

/-!
# Runs of characters

A run that shows a text is searched and cut as the text is. What begins with a mark is not found in
a run that shows a text without that mark.
-/

namespace ScriptSite.Markdown.Run

variable {c s : Char} {start text : Text}

@[simp]
theorem ofText_nil : ofText [] = [] := rfl

@[simp]
theorem ofText_cons (c : Char) (text : Text) : ofText (c :: text) = .char c :: ofText text := rfl

@[simp]
theorem ofText_append (left right : Text) :
    ofText (left ++ right) = ofText left ++ ofText right :=
  List.map_append

@[simp]
theorem is_char (c d : Char) : (Glyph.char d).is c = (c == d) := rfl

@[simp]
theorem isBlank_char (c : Char) : (Glyph.char c).isBlank = isBlank c := rfl

theorem dropPrefix?_ofText (start text : Text) :
    dropPrefix? start (ofText text) = (Text.dropPrefix? start text).map ofText := by
  induction start generalizing text with
  | nil => rfl
  | cons s start ih =>
      cases text with
      | nil => rfl
      | cons c text =>
          rw [ofText_cons, dropPrefix?, Text.dropPrefix?, is_char]
          by_cases same : s = c
          · simp [same, ih]
          · simp [same]

/-- Nothing that begins with a mark is found at the head of a run without that mark. -/
theorem dropPrefix?_of_notMem (absent : s ∉ text) (start : Text) :
    dropPrefix? (s :: start) (ofText text) = none := by
  cases text with
  | nil => rfl
  | cons c text =>
      have other : s ≠ c := fun same => absent (same ▸ List.mem_cons_self)
      simp [dropPrefix?, other]

theorem startsWith_of_notMem (absent : s ∉ text) (start : Text) :
    startsWith (s :: start) (ofText text) = false := by
  rw [startsWith, dropPrefix?_of_notMem absent, Option.isSome_none]

theorem takeWhile_is_of_notMem (absent : s ∉ text) : (ofText text).takeWhile (·.is s) = [] := by
  cases text with
  | nil => rfl
  | cons c text =>
      have other : s ≠ c := fun same => absent (same ▸ List.mem_cons_self)
      simp [other]

theorem mem_of_ofText_eq_cons {rest : Run} (equal : ofText text = .char c :: rest) : c ∈ text := by
  cases text with
  | nil => simp at equal
  | cons d text =>
      simp only [ofText_cons, List.cons.injEq, Glyph.char.injEq] at equal
      exact equal.1 ▸ List.mem_cons_self

theorem trimLeft_cons_of_visible {glyph : Glyph} (visible : glyph.isBlank = false) (rest : Run) :
    trimLeft (glyph :: rest) = glyph :: rest :=
  List.dropWhile_cons_of_neg (by simp [visible])

theorem lines_ofText (text : Text) : lines (ofText text) = (Text.lines text).map ofText := by
  induction text with
  | nil => rfl
  | cons c text ih =>
      rw [ofText_cons, lines, is_char, ih]
      by_cases newline : c = '\n'
      · simp [newline, Text.lines_newline_cons]
      · have other : '\n' ≠ c := fun same => newline same.symm
        rw [Text.lines_cons_of_ne newline]
        cases found : Text.lines text with
        | nil =>
            have count := Text.length_lines text
            simp [found] at count
        | cons line more => simp [other]

end ScriptSite.Markdown.Run
