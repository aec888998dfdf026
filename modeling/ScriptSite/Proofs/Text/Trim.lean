import ScriptSite.Text.Basic

/-!
# What trimming keeps

Trimming takes characters of one class off an end of a text. A character outside that class is never
taken, whichever end it stands near.
-/

namespace ScriptSite.Text

variable {c : Char} {text : Text}

theorem allBlank_iff : allBlank text = true ↔ ∀ c ∈ text, isBlank c = true := by
  simp [allBlank]

theorem allBlank_eq_false_iff : allBlank text = false ↔ ∃ c ∈ text, isBlank c = false := by
  simp [allBlank]

theorem mem_dropWhile_of_mem {p : Char → Bool} (mem : c ∈ text) (outside : p c = false) :
    c ∈ text.dropWhile p := by
  rw [← List.takeWhile_append_dropWhile (p := p) (l := text), List.mem_append] at mem
  rcases mem with inside | kept
  · have taken := List.all_eq_true.mp List.all_takeWhile c inside
    rw [outside] at taken
    exact absurd taken (by decide)
  · exact kept

/-- Taking characters of a class stops where a text begins with none. -/
theorem takeWhile_append_stop {p : Char → Bool} {before rest : Text} (inside : ∀ c ∈ before, p c)
    (stops : rest.head?.any p = false) : (before ++ rest).takeWhile p = before := by
  rw [List.takeWhile_append_of_pos inside]
  cases rest with
  | nil => simp
  | cons c rest =>
      rw [List.takeWhile_cons_of_neg (by simpa using stops), List.append_nil]

/-- Dropping characters of a class stops where a text begins with none. -/
theorem dropWhile_append_stop {p : Char → Bool} {before rest : Text} (inside : ∀ c ∈ before, p c)
    (stops : rest.head?.any p = false) : (before ++ rest).dropWhile p = rest := by
  rw [List.dropWhile_append_of_pos inside]
  cases rest with
  | nil => simp
  | cons c rest => exact List.dropWhile_cons_of_neg (by simpa using stops)

theorem trimLeft_append_of_allBlank {blanks : Text} (blank : allBlank blanks = true)
    (rest : Text) : trimLeft (blanks ++ rest) = trimLeft rest :=
  List.dropWhile_append_of_pos (allBlank_iff.mp blank)

theorem trimLeft_cons_of_visible (visible : isBlank c = false) (rest : Text) :
    trimLeft (c :: rest) = c :: rest :=
  List.dropWhile_cons_of_neg (by simp [visible])

theorem visible_of_trimLeft_eq_cons {rest : Text} (trimmed : trimLeft text = c :: rest) :
    isBlank c = false := by
  have stopped := List.head?_dropWhile_not isBlank text
  rw [← trimLeft, trimmed, List.head?_cons] at stopped
  simpa using stopped

/-- The blanks that trimming takes off the left end. -/
theorem exists_blanks_append_trimLeft (text : Text) :
    ∃ blanks, allBlank blanks = true ∧ text = blanks ++ trimLeft text :=
  ⟨text.takeWhile isBlank, List.all_takeWhile, List.takeWhile_append_dropWhile.symm⟩

/-- A text that is not blank has blanks in front of its first visible character. -/
theorem exists_blanks_append_visible (visible : allBlank text = false) :
    ∃ blanks c rest, allBlank blanks = true ∧ isBlank c = false ∧ text = blanks ++ c :: rest := by
  rcases exists_blanks_append_trimLeft text with ⟨blanks, blank, equal⟩
  cases trimmed : trimLeft text with
  | nil =>
      rw [trimmed, List.append_nil] at equal
      rw [equal, blank] at visible
      simp at visible
  | cons c rest =>
      rw [trimmed] at equal
      exact ⟨blanks, c, rest, blank, visible_of_trimLeft_eq_cons trimmed, equal⟩

/-- Trimming the right end stops at a visible character. -/
theorem trimRight_append_of_visible (visible : isBlank c = false) (left right : Text) :
    trimRight (left ++ c :: right) = left ++ c :: trimRight right := by
  simp only [trimRight, dropWhileRight, List.reverse_append, List.reverse_cons, List.append_assoc,
    List.dropWhile_append, List.isEmpty_iff]
  split
  · rename_i allBlank
    simp [allBlank, visible]
  · simp

/-- The blanks that trimming takes off the right end. -/
theorem exists_trimRight_append_blanks (text : Text) :
    ∃ blanks, allBlank blanks = true ∧ text = trimRight text ++ blanks := by
  refine ⟨(text.reverse.takeWhile isBlank).reverse, ?_, ?_⟩
  · rw [allBlank, List.all_reverse]
    exact List.all_takeWhile
  · rw [trimRight, dropWhileRight, ← List.reverse_append, List.takeWhile_append_dropWhile,
      List.reverse_reverse]

theorem mem_trimRight_of_mem (mem : c ∈ text) (visible : isBlank c = false) :
    c ∈ trimRight text := by
  rw [trimRight, dropWhileRight, List.mem_reverse]
  exact mem_dropWhile_of_mem (List.mem_reverse.mpr mem) visible

/-- A character between two texts stands on one side of any other cut. -/
theorem append_cons_eq_append_iff {left right first second : Text} :
    left ++ c :: right = first ++ second ↔
      (∃ tail, first = left ++ c :: tail ∧ right = tail ++ second) ∨
        ∃ more, left = first ++ more ∧ second = more ++ c :: right := by
  rw [List.append_eq_append_iff]
  constructor
  · rintro (⟨tail, firstEq, secondEq⟩ | ⟨more, leftEq, secondEq⟩)
    · cases tail with
      | nil =>
          right
          refine ⟨[], ?_, ?_⟩
          · simpa using firstEq.symm
          · simpa using secondEq.symm
      | cons d tail =>
          simp only [List.cons_append, List.cons.injEq] at secondEq
          rcases secondEq with ⟨rfl, rightEq⟩
          exact Or.inl ⟨tail, firstEq, rightEq⟩
    · exact Or.inr ⟨more, leftEq, secondEq⟩
  · rintro (⟨tail, rfl, rfl⟩ | ⟨more, rfl, rfl⟩)
    · exact Or.inl ⟨c :: tail, rfl, rfl⟩
    · exact Or.inr ⟨more, rfl, rfl⟩

theorem exists_of_append_cons_eq_append {left right first second : Text} (notMem : c ∉ first)
    (equal : left ++ c :: right = first ++ second) :
    ∃ more, left = first ++ more ∧ second = more ++ c :: right := by
  rcases append_cons_eq_append_iff.mp equal with ⟨tail, rfl, _⟩ | found
  · simp at notMem
  · exact found

/-- Texts are cut in one way only before the first place of a character. -/
theorem eq_of_append_cons {left right first second : Text} (leftFree : c ∉ left)
    (firstFree : c ∉ first) (equal : left ++ c :: right = first ++ c :: second) :
    left = first ∧ right = second := by
  rcases exists_of_append_cons_eq_append firstFree equal with ⟨more, rfl, later⟩
  cases more with
  | nil => simpa using later.symm
  | cons d more =>
      rw [List.cons_append, List.cons.injEq] at later
      simp [later.1] at leftFree

end ScriptSite.Text
