import ScriptSite.Text.Basic

/-!
# Counting lines

The lines of a text are the stretches between its newlines, so a text has one line more than it has
newlines, and a newline between two texts keeps their lines apart.

A text that is empty or ends in a newline is closed: whatever follows it begins a line of its own.
The lines of what follows are then found by counting the newlines of the closed text, which is
`drop_newlines_lines`, and a body between a closed text and a blank line stands in the whole where
that count says, which is `standsAt_of_closed`.
-/

namespace ScriptSite.Text

variable {start body rest : Text}

theorem splitWhere_eq_splitOnP (p : Char → Bool) (text : Text) :
    splitWhere p text = text.splitOnP p := by
  induction text with
  | nil => rfl
  | cons c text ih =>
      rw [splitWhere, ih, List.splitOnP_cons_eq_if_modifyHead]
      cases pieces : text.splitOnP p with
      | nil => exact absurd pieces (List.splitOnP_ne_nil p text)
      | cons piece more => rfl

theorem sublist_of_mem_splitWhere {p : Char → Bool} {text piece : Text}
    (mem : piece ∈ splitWhere p text) : piece.Sublist text := by
  induction text generalizing piece with
  | nil =>
      rw [splitWhere, List.mem_singleton] at mem
      simp [mem]
  | cons c text ih =>
      rw [splitWhere] at mem
      split at mem
      · rcases List.mem_cons.mp mem with rfl | mem
        · exact List.nil_sublist _
        · exact (ih mem).cons c
      · rcases pieces : splitWhere p text with _ | ⟨first, more⟩
        · rw [pieces, List.mem_singleton] at mem
          rw [mem]
          exact (List.nil_sublist text).cons_cons c
        · rw [pieces] at mem ih
          rcases List.mem_cons.mp mem with rfl | mem
          · exact (ih List.mem_cons_self).cons_cons c
          · exact (ih (List.mem_cons_of_mem _ mem)).cons c

theorem lines_append_newline (left right : Text) :
    lines (left ++ '\n' :: right) = lines left ++ lines right := by
  simp only [lines, splitWhere_eq_splitOnP]
  exact List.splitOnP_append_cons left right rfl

theorem lines_cons_of_ne {c : Char} (notNewline : c ≠ '\n') (rest : Text) :
    lines (c :: rest) = (lines rest).modifyHead (c :: ·) := by
  simp [lines, splitWhere_eq_splitOnP, List.splitOnP_cons_eq_if_modifyHead, notNewline]

theorem lines_newline_cons (rest : Text) : lines ('\n' :: rest) = [] :: lines rest :=
  lines_append_newline [] rest

/-- A line is empty, begins as the text does, or is not the first line. -/
theorem head?_or_mem_tail_of_mem_lines {text line : Text} (mem : line ∈ lines text) :
    line = [] ∨ line.head? = text.head? ∨ line ∈ (lines text).tail := by
  cases text with
  | nil => exact Or.inl (List.mem_singleton.mp mem)
  | cons c text =>
      by_cases newline : c = '\n'
      · rw [newline, lines_newline_cons] at mem ⊢
        exact (List.mem_cons.mp mem).imp_right Or.inr
      · rw [lines_cons_of_ne newline] at mem ⊢
        cases found : lines text with
        | nil => simp [found] at mem
        | cons first more =>
            rw [found] at mem
            rcases List.mem_cons.mp mem with rfl | later
            · exact Or.inr (Or.inl rfl)
            · exact Or.inr (Or.inr later)

/-- Cutting a text into its lines and putting them together again gives the text. -/
theorem unlines_lines (text : Text) : unlines (lines text) = text := by
  rw [unlines, lines, splitWhere_eq_splitOnP]
  exact List.intercalate_splitOn '\n'

@[simp]
theorem newlines_nil : newlines [] = 0 := rfl

@[simp]
theorem newlines_append (left right : Text) :
    newlines (left ++ right) = newlines left + newlines right :=
  List.count_append

@[simp]
theorem newlines_newline_cons (text : Text) : newlines ('\n' :: text) = newlines text + 1 :=
  List.count_cons_self

theorem length_lines (text : Text) : (lines text).length = newlines text + 1 := by
  induction text with
  | nil => rfl
  | cons c text ih =>
      by_cases newline : c = '\n'
      · subst newline
        have apart := lines_append_newline [] text
        simp only [List.nil_append] at apart
        rw [apart, List.length_append, ih, newlines_newline_cons]
        simp [lines, splitWhere]
        omega
      · have same : newlines (c :: text) = newlines text := by
          simp [newlines, newline]
        rw [same, ← ih]
        simp only [lines, splitWhere_eq_splitOnP, List.splitOnP_cons_eq_if_modifyHead]
        simp [newline]

/-- A blank line between two texts is one empty line between their lines. -/
theorem lines_append_blank_line (left right : Text) :
    lines (left ++ ['\n', '\n'] ++ right) = lines left ++ [] :: lines right := by
  have first := lines_append_newline left ('\n' :: right)
  have second := lines_append_newline [] right
  rw [List.nil_append] at second
  rw [List.append_assoc, List.cons_append, List.cons_append, List.nil_append, first, second]
  rfl

/-- Whether a text is empty or ends in a newline, so that what follows it begins a line. -/
def Closed (text : Text) : Prop :=
  text = [] ∨ ∃ start, text = start ++ ['\n']

@[simp]
theorem closed_nil : Closed [] := Or.inl rfl

theorem closed_append_newline (start : Text) : Closed (start ++ ['\n']) :=
  Or.inr ⟨start, rfl⟩

theorem Closed.append (left : Closed start) (right : Closed rest) : Closed (start ++ rest) := by
  rcases right with rfl | ⟨inner, rfl⟩
  · simpa using left
  · rw [← List.append_assoc]
    exact closed_append_newline (start ++ inner)

/-- The lines of what follows a closed text are found by counting the newlines of the closed
text. -/
theorem drop_newlines_lines (closed : Closed start) :
    (lines (start ++ rest)).drop (newlines start) = lines rest := by
  rcases closed with rfl | ⟨inner, rfl⟩
  · rfl
  · have whole : lines (inner ++ ['\n'] ++ rest) = lines inner ++ lines rest := by
      simpa using lines_append_newline inner rest
    have count : newlines (inner ++ ['\n']) = (lines inner).length := by
      simp [length_lines, newlines]
    rw [whole, count, List.drop_left]

/-- Whether the lines of `body` are those of `text` from the line with the number `line` on, counted
from zero, and the line after them is empty. -/
structure StandsAt (body text : Text) (line : Nat) : Prop where
  lines_eq : ((lines text).drop line).take (lines body).length = lines body
  blank_after : (lines text)[line + (lines body).length]? = some []

/-- A body between a closed text and a blank line stands on the line that counting newlines
gives. -/
theorem standsAt_of_closed (closed : Closed start) (body rest : Text) :
    StandsAt body (start ++ (body ++ ['\n', '\n'] ++ rest)) (newlines start) := by
  have after := lines_append_blank_line body rest
  constructor
  · rw [drop_newlines_lines closed, after, List.take_left]
  · rw [← List.getElem?_drop, drop_newlines_lines closed, after]
    simp

end ScriptSite.Text
