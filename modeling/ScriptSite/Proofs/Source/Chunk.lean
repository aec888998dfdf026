import ScriptSite.Proofs.Source.Block
import ScriptSite.Proofs.Source.Directive
import ScriptSite.Source.Segment

/-!
# What trimming keeps of code

Code enters the complete script without the newlines it begins with and the blanks it ends with.
What begins and ends with visible characters is not touched (`scriptBody_append`), and so a block,
an opening or a close of one, and the word of a directive stand in the trimmed code exactly if they
stand in the code. A directive that lacks only its last blank may be made by trimming, but not out
of code that holds no directive.
-/

namespace ScriptSite.Source

variable {text left right code : Text}

/-- Whether a prose block opens in a text with nothing but its body up to the end. -/
def OpensBlock (text : Text) : Prop :=
  ∃ before body, text = before ++ (blockOpen ++ body) ∧ '*' ∉ body

/-- Whether a prose block that opened before a text closes in it. -/
def ClosesBlock (text : Text) : Prop :=
  ∃ body after, text = body ++ (blockClose ++ after) ∧ '*' ∉ body

theorem HoldsBlock.append (holds : HoldsBlock left) (right : Text) :
    HoldsBlock (left ++ right) := by
  rcases holds with ⟨before, rest, rfl, begins⟩
  exact ⟨before, rest ++ right, List.append_assoc .., begins.append right⟩

theorem HoldsBlock.prepend (holds : HoldsBlock right) (left : Text) :
    HoldsBlock (left ++ right) := by
  rcases holds with ⟨before, rest, rfl, begins⟩
  exact ⟨left ++ before, rest, (List.append_assoc ..).symm, begins⟩

theorem ne_newline_of_visible {c : Char} (visible : isBlank c = false) : c ≠ '\n' := by
  rintro rfl
  simp at visible

/-- Dropping newlines stops at a visible character. -/
theorem dropWhile_newline_append {c : Char} (visible : isBlank c = false) (left right : Text) :
    (left ++ c :: right).dropWhile (· == '\n') = left.dropWhile (· == '\n') ++ c :: right := by
  rw [List.dropWhile_append]
  split
  · rename_i newlines
    rw [List.isEmpty_iff.mp newlines, List.nil_append,
      List.dropWhile_cons_of_neg (by simp [ne_newline_of_visible visible])]
  · rfl

/-- Trimming stops at a visible character from both sides. -/
theorem scriptBody_append_of_visible {c : Char} (visible : isBlank c = false) (before rest : Text) :
    scriptBody (before ++ c :: rest) =
      before.dropWhile (· == '\n') ++ c :: Text.trimRight rest := by
  rw [scriptBody, Text.trimRight_append_of_visible visible, dropWhile_newline_append visible]

/-- Trimming touches nothing between two visible characters. -/
theorem scriptBody_append {first last : Char} (firstVisible : isBlank first = false)
    (lastVisible : isBlank last = false) (before inner rest : Text) :
    scriptBody (before ++ first :: (inner ++ last :: rest)) =
      before.dropWhile (· == '\n') ++ first :: (inner ++ last :: Text.trimRight rest) := by
  rw [scriptBody_append_of_visible firstVisible, Text.trimRight_append_of_visible lastVisible]

/-- What trimming takes off code. -/
theorem exists_scriptBody_append (code : Text) :
    ∃ newlines blanks, Text.allBlank newlines = true ∧ Text.allBlank blanks = true ∧
      code = newlines ++ (scriptBody code ++ blanks) := by
  rcases Text.exists_trimRight_append_blanks code with ⟨blanks, blank, equal⟩
  refine ⟨(Text.trimRight code).takeWhile (· == '\n'), blanks, ?_, blank, ?_⟩
  · rw [Text.allBlank_iff]
    intro c mem
    have newline := List.all_eq_true.mp List.all_takeWhile c mem
    rw [beq_iff_eq] at newline
    rw [newline, isBlank_newline]
  · rw [scriptBody, ← List.append_assoc, List.takeWhile_append_dropWhile]
    exact equal

theorem star_notMem_of_allBlank (blank : Text.allBlank text = true) : '*' ∉ text := by
  intro mem
  have star := Text.allBlank_iff.mp blank '*' mem
  exact absurd star (by decide)

theorem star_notMem_trimRight (starless : '*' ∉ text) : '*' ∉ Text.trimRight text := by
  rcases Text.exists_trimRight_append_blanks text with ⟨blanks, _, equal⟩
  rw [equal] at starless
  simp only [List.mem_append, not_or] at starless
  exact starless.1

theorem star_mem_scriptBody_iff : '*' ∈ scriptBody code ↔ '*' ∈ code := by
  constructor
  · intro mem
    rcases exists_scriptBody_append code with ⟨newlines, blanks, _, _, equal⟩
    rw [equal]
    simp [mem]
  · intro mem
    exact Text.mem_dropWhile_of_mem (Text.mem_trimRight_of_mem mem rfl) rfl

theorem holdsBlock_scriptBody_iff : HoldsBlock (scriptBody code) ↔ HoldsBlock code := by
  constructor
  · intro holds
    rcases exists_scriptBody_append code with ⟨newlines, blanks, _, _, equal⟩
    rw [equal]
    exact (holds.append blanks).prepend newlines
  · rintro ⟨before, _, rfl, body, rest, isBody, rfl⟩
    have trimmed := scriptBody_append (rfl : isBlank '/' = false) (rfl : isBlank '/' = false) before
      ('*' :: '*' :: (body ++ ['*'])) rest
    refine ⟨before.dropWhile (· == '\n'), blockForm body ++ Text.trimRight rest, ?_, body,
      Text.trimRight rest, isBody, rfl⟩
    simpa [blockForm_append] using trimmed

theorem opensBlock_scriptBody_iff : OpensBlock (scriptBody code) ↔ OpensBlock code := by
  constructor
  · rintro ⟨before, body, bodyEq, starless⟩
    rcases exists_scriptBody_append code with ⟨newlines, blanks, _, blank, equal⟩
    refine ⟨newlines ++ before, body ++ blanks, ?_, ?_⟩
    · rw [equal, bodyEq]
      simp
    · simp [starless, star_notMem_of_allBlank blank]
  · rintro ⟨before, body, rfl, starless⟩
    have trimmed := scriptBody_append (rfl : isBlank '/' = false) (rfl : isBlank '*' = false) before
      ['*'] body
    refine ⟨before.dropWhile (· == '\n'), Text.trimRight body, ?_, star_notMem_trimRight starless⟩
    simpa [blockOpen] using trimmed

theorem closesBlock_scriptBody_iff : ClosesBlock (scriptBody code) ↔ ClosesBlock code := by
  constructor
  · rintro ⟨body, after, bodyEq, starless⟩
    rcases exists_scriptBody_append code with ⟨newlines, blanks, blank, _, equal⟩
    refine ⟨newlines ++ body, after ++ blanks, ?_, ?_⟩
    · rw [equal, bodyEq]
      simp
    · simp [starless, star_notMem_of_allBlank blank]
  · rintro ⟨body, after, rfl, starless⟩
    have trimmed := scriptBody_append (rfl : isBlank '*' = false) (rfl : isBlank '/' = false) body
      [] after
    refine ⟨body.dropWhile (· == '\n'), Text.trimRight after, ?_, ?_⟩
    · simpa [blockClose] using trimmed
    · intro mem
      exact starless ((List.dropWhile_sublist _).mem mem)

theorem holdsDirective_of_scriptBody (holds : HoldsDirective (scriptBody code)) :
    HoldsDirective code := by
  rcases exists_scriptBody_append code with ⟨newlines, blanks, _, _, equal⟩
  rw [equal]
  exact (holds.append blanks).prepend newlines

theorem allBlank_scriptBody (visible : Text.allBlank code = false) :
    Text.allBlank (scriptBody code) = false := by
  rcases Text.allBlank_eq_false_iff.mp visible with ⟨c, mem, cVisible⟩
  have notNewline : (c == '\n') = false := beq_eq_false_iff_ne.mpr (ne_newline_of_visible cVisible)
  exact Text.allBlank_eq_false_iff.mpr
    ⟨c, Text.mem_dropWhile_of_mem (Text.mem_trimRight_of_mem mem cVisible) notNewline, cVisible⟩

theorem endsInAudioWord_scriptBody_iff :
    EndsInAudioWord (scriptBody code) ↔ EndsInAudioWord code := by
  constructor
  · rintro ⟨before, blanks, blank, bodyEq⟩
    rcases exists_scriptBody_append code with ⟨newlines, more, _, moreBlank, equal⟩
    refine ⟨newlines ++ before, blanks ++ more, ?_, ?_⟩
    · simp only [Text.allBlank, List.all_append, Bool.and_eq_true]
      exact ⟨blank, moreBlank⟩
    · rw [equal, bodyEq]
      simp
  · rintro ⟨before, blanks, blank, rfl⟩
    have trimmed := scriptBody_append (rfl : isBlank '$' = false) (rfl : isBlank 'o' = false) before
      ['a', 'u', 'd', 'i'] blanks
    refine ⟨before.dropWhile (· == '\n'), Text.trimRight blanks, ?_, ?_⟩
    · rcases Text.exists_trimRight_append_blanks blanks with ⟨more, _, equal⟩
      rw [equal] at blank
      simp only [Text.allBlank, List.all_append, Bool.and_eq_true] at blank
      exact blank.1
    · simpa [audioWord] using trimmed

/-- Trimming makes no directive, but for the blank behind it, of code that holds none. -/
theorem endsInDirective_scriptBody_iff (silent : ¬HoldsDirective code) :
    EndsInDirective (scriptBody code) ↔ EndsInDirective code := by
  constructor
  · rintro ⟨before, blanks, name, nonempty, blank, isName, bodyEq⟩
    rcases exists_scriptBody_append code with ⟨newlines, more, _, moreBlank, equal⟩
    cases more with
    | nil =>
        refine ⟨newlines ++ before, blanks, name, nonempty, blank, isName, ?_⟩
        rw [equal, bodyEq]
        simp
    | cons c more =>
        have ended : isBlank c = true := Text.allBlank_iff.mp moreBlank c (by simp)
        have ends : EndsInDirective (scriptBody code) :=
          ⟨before, blanks, name, nonempty, blank, isName, bodyEq⟩
        have holds := (ends.holdsDirective ended more).prepend newlines
        rw [← equal] at holds
        exact absurd holds silent
  · rintro ⟨before, blanks, name, nonempty, blank, isName, rfl⟩
    rcases List.eq_nil_or_concat name with rfl | ⟨start, last, rfl⟩
    · exact absurd rfl isName.ne_nil
    · have visible := isName.visible last (by simp)
      have trimmed := scriptBody_append (rfl : isBlank '$' = false) visible before
        (['a', 'u', 'd', 'i', 'o'] ++ (blanks ++ start)) []
      refine ⟨before.dropWhile (· == '\n'), blanks, _, nonempty, blank, isName, ?_⟩
      simpa [audioWord, Text.trimRight, Text.dropWhileRight] using trimmed

end ScriptSite.Source
