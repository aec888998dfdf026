import ScriptSite.Proofs.Source.Chunk
import ScriptSite.Proofs.Source.Numbering

/-!
# Blank lines in the complete script

Between the bodies of two code segments the complete script has one empty line. Trimming takes the
newlines off the front of a body, but it stops at the first blank that is no newline: if only blanks
follow on that line, the line stays, and so do all blank lines behind it. `strayLines` counts them.

So one blank line and the stray lines of the next body stand between two bodies, and the script is
spaced as it should be exactly if no code has stray lines (`spaced_iff`).
-/

namespace ScriptSite

namespace Text

variable {c : Char} {start rest : Text}

/-- The number of blank lines of a text from a line on, counted from zero. -/
def blankRun (text : Text) (line : Nat) : Nat :=
  (((lines text).drop line).takeWhile allBlank).length

/-- A visible character makes the first line visible. -/
theorem blankRun_cons_of_visible (visible : isBlank c = false) (rest : Text) :
    blankRun (c :: rest) 0 = 0 := by
  have notNewline : c ≠ '\n' := by
    rintro rfl
    simp at visible
  rw [blankRun, List.drop_zero, lines_cons_of_ne notNewline]
  cases lines rest with
  | nil => rfl
  | cons line more => simp [allBlank, visible]

theorem blankRun_newline_cons (rest : Text) : blankRun ('\n' :: rest) 0 = blankRun rest 0 + 1 := by
  rw [blankRun, List.drop_zero, lines_newline_cons, List.takeWhile_cons_of_pos rfl]
  rfl

theorem blankRun_cons_of_blank (blank : isBlank c = true) (notNewline : c ≠ '\n') (rest : Text) :
    blankRun (c :: rest) 0 = blankRun rest 0 := by
  rw [blankRun, blankRun, List.drop_zero, List.drop_zero, lines_cons_of_ne notNewline]
  cases lines rest with
  | nil => rfl
  | cons line more =>
      rw [List.modifyHead_cons, List.takeWhile_cons, List.takeWhile_cons]
      have same : allBlank (c :: line) = allBlank line := by simp [allBlank, blank]
      rw [same]
      split <;> rfl

/-- The blank lines in front of the first visible character are the newlines in front of it. -/
theorem blankRun_append_of_visible {blanks : Text} (blank : allBlank blanks = true)
    (visible : isBlank c = false) (rest : Text) :
    blankRun (blanks ++ c :: rest) 0 = newlines blanks := by
  induction blanks with
  | nil => exact blankRun_cons_of_visible visible rest
  | cons b blanks ih =>
      simp only [allBlank, List.all_cons, Bool.and_eq_true] at blank
      by_cases newline : b = '\n'
      · rw [newline, List.cons_append, blankRun_newline_cons, ih blank.2, newlines_newline_cons]
      · have same : newlines (b :: blanks) = newlines blanks := by simp [newlines, newline]
        rw [List.cons_append, blankRun_cons_of_blank blank.1 newline, ih blank.2, same]

/-- Behind a body and its blank line, the blank lines go on with those of the rest. -/
theorem blankRun_after_body (closed : Closed start) (body rest : Text) :
    blankRun (start ++ (body ++ ['\n', '\n'] ++ rest)) (newlines start + (lines body).length) =
      blankRun rest 0 + 1 := by
  rw [blankRun, ← List.drop_drop, drop_newlines_lines closed, lines_append_blank_line,
    List.drop_left, List.takeWhile_cons_of_pos rfl]
  rfl

end Text

namespace Source

variable {text code : Text} {codes : List Segment}

/-- The number of blank lines in front of code that trimming leaves there. -/
def strayLines (code : Text) : Nat :=
  Text.newlines ((code.takeWhile isBlank).dropWhile (· == '\n'))

/-- The number of the line behind the body of a code segment, given the code segments before it. -/
def lineBehind (before : List Segment) (segment : Segment) : Nat :=
  Text.newlines (completeScript before) + (Text.lines (scriptBody segment.text)).length

/-- Whether a script of code segments begins with a line that is not blank, and there is one blank
line between the last line of a body and the first line of the next that is not blank. -/
structure Spaced (codes : List Segment) (script : Text) : Prop where
  begins : script ≠ [] → Text.blankRun script 0 = 0
  between : ∀ before earlier later after, codes = before ++ earlier :: later :: after →
    Text.blankRun script (lineBehind before earlier) = 1

/-- A body begins with as many blank lines as trimming leaves. -/
theorem blankRun_scriptBody_append (visible : Text.allBlank code = false) (rest : Text) :
    Text.blankRun (scriptBody code ++ rest) 0 = strayLines code := by
  rcases Text.exists_blanks_append_visible visible with ⟨blanks, c, more, blank, cVisible, rfl⟩
  have blankLeft : Text.allBlank (blanks.dropWhile (· == '\n')) = true := by
    rw [Text.allBlank_iff] at blank ⊢
    intro d mem
    exact blank d ((List.dropWhile_sublist _).mem mem)
  have front : (blanks ++ c :: more).takeWhile isBlank = blanks := by
    rw [List.takeWhile_append_of_pos (Text.allBlank_iff.mp blank),
      List.takeWhile_cons_of_neg (by simp [cVisible]), List.append_nil]
  rw [scriptBody_append_of_visible cVisible, List.append_assoc, List.cons_append,
    Text.blankRun_append_of_visible blankLeft cVisible, strayLines, front]

section Script

variable (allCode : ∀ segment ∈ codes, segment.kind = .code)
  (visible : ∀ segment ∈ codes, Text.allBlank segment.text = false)

include allCode visible

/-- The script begins with the stray lines of the first code. -/
theorem blankRun_completeScript {first : Segment} {rest : List Segment}
    (split : codes = first :: rest) :
    Text.blankRun (completeScript codes) 0 = strayLines first.text := by
  rw [split, List.forall_mem_cons] at allCode visible
  rw [split, completeScript_cons_code allCode.1, List.append_assoc,
    blankRun_scriptBody_append visible.1]

/-- Behind a body stand its own blank line and the stray lines of the next code. -/
theorem blankRun_lineBehind {before after : List Segment} {earlier later : Segment}
    (split : codes = before ++ earlier :: later :: after) :
    Text.blankRun (completeScript codes) (lineBehind before earlier) =
      strayLines later.text + 1 := by
  rw [split] at allCode visible
  simp only [List.forall_mem_append, List.forall_mem_cons] at allCode visible
  rw [split, completeScript_append, completeScript_cons_code allCode.2.1, lineBehind,
    Text.blankRun_after_body (closed_completeScript before),
    completeScript_cons_code allCode.2.2.1, List.append_assoc,
    blankRun_scriptBody_append visible.2.2.1]

/-- A script is spaced as it should be exactly if no code has stray lines. -/
theorem spaced_completeScript_iff :
    Spaced codes (completeScript codes) ↔ ∀ segment ∈ codes, strayLines segment.text = 0 := by
  constructor
  · intro spaced segment mem
    rcases List.append_of_mem mem with ⟨before, after, split⟩
    rcases List.eq_nil_or_concat before with rfl | ⟨front, earlier, rfl⟩
    · rw [List.nil_append] at split
      rw [← blankRun_completeScript allCode visible split]
      apply spaced.begins
      rw [split, completeScript_cons_code (allCode segment mem)]
      simp
    · rw [List.concat_eq_append, List.append_assoc] at split
      have one := spaced.between front earlier segment after split
      rw [blankRun_lineBehind allCode visible split] at one
      omega
  · intro noStray
    constructor
    · intro nonempty
      cases codes with
      | nil => simp at nonempty
      | cons first rest =>
          rw [blankRun_completeScript allCode visible rfl]
          exact noStray first (by simp)
    · intro before earlier later after split
      rw [blankRun_lineBehind allCode visible split, noStray later (by simp [split])]

end Script

/-- The complete script begins with the stray lines of its first code, and between two bodies stand
one blank line and the stray lines of the second. So it begins with a line that is not blank, and
has one blank line between bodies, exactly if no code has stray lines. -/
theorem spaced_iff (text : Text) :
    (∀ first ∈ (codeSegments (segments text)).head?,
        Text.blankRun (completeScript (segments text)) 0 = strayLines first.text) ∧
      (∀ before earlier later after,
        codeSegments (segments text) = before ++ earlier :: later :: after →
          Text.blankRun (completeScript (segments text)) (lineBehind before earlier) =
            strayLines later.text + 1) ∧
      (Spaced (codeSegments (segments text)) (completeScript (segments text)) ↔
        ∀ segment ∈ codeSegments (segments text), strayLines segment.text = 0) := by
  have allCode : ∀ segment ∈ codeSegments (segments text), segment.kind = .code :=
    fun segment mem => (mem_codeSegments.mp mem).2
  have visible : ∀ segment ∈ codeSegments (segments text), Text.allBlank segment.text = false :=
    fun segment mem => allBlank_of_mem_codeSegments mem
  rw [← completeScript_codeSegments]
  refine ⟨?_, ?_, spaced_completeScript_iff allCode visible⟩
  · intro first head
    rcases List.head?_eq_some_iff.mp head with ⟨rest, split⟩
    exact blankRun_completeScript allCode visible split
  · intro before earlier later after split
    exact blankRun_lineBehind allCode visible split

/-- A blank behind the close of a prose block stays in front of the code, and so does the line that
it stands on. -/
theorem not_spaced_of_blank_behind_block :
    completeScript (segments "a();\n/**\n# T\n*/ \nb();\n".toList) =
        "a();\n\n \nb();\n\n".toList ∧
      ¬Spaced (codeSegments (segments "a();\n/**\n# T\n*/ \nb();\n".toList))
        (completeScript (segments "a();\n/**\n# T\n*/ \nb();\n".toList)) := by
  have codes : codeSegments (segments "a();\n/**\n# T\n*/ \nb();\n".toList) =
      [.code "a();\n".toList 0, .code " \nb();\n".toList 2] := by cbv
  have script : completeScript (segments "a();\n/**\n# T\n*/ \nb();\n".toList) =
      "a();\n\n \nb();\n\n".toList := by cbv
  refine ⟨script, ?_⟩
  rw [codes, script]
  intro spaced
  have one := spaced.between [] _ _ [] rfl
  revert one
  decide

end Source

end ScriptSite
