import ScriptSite.Proofs.Source.Chunk
import ScriptSite.Proofs.Source.Numbering

/-!
# What the complete script holds

No code segment holds an audio directive, and a stretch without modelines holds no prose block. But
the complete script is put together from trimmed code, and what is sound or prose for a reader of
the script need not be so for a reader of the source.

A directive turns up where code ends in one that lacks the blank behind the name of its file, for
the script puts a newline there, and where code ends in the word of a directive, for the next code
then names the file. A block turns up where taking out modelines has made one, and where it opens in
one code segment and closes in a later one. There are no other ways (`excludes_iff`).
-/

namespace ScriptSite.Source

variable {text : Text} {codes : List Segment} {segment : Segment}

/-- A block in two texts with a newline between them stands in one of them, or opens in the first
and closes in the second. -/
theorem holdsBlock_append_newline_iff (left right : Text) :
    HoldsBlock (left ++ '\n' :: right) ↔
      HoldsBlock left ∨ (OpensBlock left ∧ ClosesBlock right) ∨ HoldsBlock right := by
  constructor
  · rintro ⟨before, _, equal, body, rest, isBody, rfl⟩
    rw [blockForm, List.append_assoc, List.append_assoc] at equal
    rcases Text.append_cons_eq_append_iff.mp equal with ⟨tail, rfl, rfl⟩ | ⟨more, rfl, atOpen⟩
    · exact Or.inr (Or.inr ⟨tail, _, rfl, body, rest, isBody, by simp [blockForm]⟩)
    · rcases Text.exists_of_append_cons_eq_append (by decide : '\n' ∉ blockOpen) atOpen.symm with
        ⟨inner, rfl, atBody⟩
      rcases Text.append_cons_eq_append_iff.mp atBody.symm with
        ⟨tail, rfl, rfl⟩ | ⟨closing, rfl, atClose⟩
      · have starless := isBody.star_notMem
        simp only [List.mem_append, List.mem_cons, not_or] at starless
        exact Or.inr (Or.inl ⟨⟨before, inner, rfl, starless.1⟩, tail, rest, rfl, starless.2.2⟩)
      · have noNewline : '\n' ∉ blockClose := by decide
        rcases Text.exists_of_append_cons_eq_append noNewline atClose.symm with
          ⟨after, rfl, _⟩
        exact Or.inl ⟨before, _, rfl, body, after, isBody, by simp [blockForm]⟩
  · rintro (holds | ⟨⟨before, body, rfl, starless⟩, more, after, rfl, moreStarless⟩ | holds)
    · exact holds.append _
    · have isBody : IsBody (body ++ '\n' :: more) := ⟨by simp, by simp [starless, moreStarless]⟩
      refine ⟨before, blockForm (body ++ '\n' :: more) ++ after, ?_, _, after, isBody, rfl⟩
      simp [blockForm]
    · exact (holds.prepend ['\n']).prepend left

theorem closesBlock_append_newline_iff (left right : Text) :
    ClosesBlock (left ++ '\n' :: right) ↔ ClosesBlock left ∨ ('*' ∉ left ∧ ClosesBlock right) := by
  constructor
  · rintro ⟨body, after, equal, starless⟩
    rcases Text.append_cons_eq_append_iff.mp equal with ⟨tail, rfl, rfl⟩ | ⟨more, rfl, atClose⟩
    · simp only [List.mem_append, List.mem_cons, not_or] at starless
      exact Or.inr ⟨starless.1, tail, after, rfl, starless.2.2⟩
    · rcases Text.exists_of_append_cons_eq_append (by decide : '\n' ∉ blockClose) atClose.symm with
        ⟨inner, rfl, _⟩
      exact Or.inl ⟨body, inner, rfl, starless⟩
  · rintro (⟨body, after, rfl, starless⟩ | ⟨starless, body, after, rfl, bodyStarless⟩)
    · exact ⟨body, after ++ '\n' :: right, by simp, starless⟩
    · exact ⟨left ++ '\n' :: body, after, by simp, by simp [starless, bodyStarless]⟩

theorem not_opensBlock_nil : ¬OpensBlock [] := by
  rintro ⟨before, body, equal, _⟩
  simp [blockOpen] at equal

theorem not_closesBlock_nil : ¬ClosesBlock [] := by
  rintro ⟨body, after, equal, _⟩
  simp [blockClose] at equal

theorem not_holdsBlock_nil : ¬HoldsBlock [] := by
  rintro ⟨before, rest, equal, begins⟩
  rw [List.nil_eq, List.append_eq_nil_iff] at equal
  rw [equal.2] at begins
  exact not_beginsBlock_nil begins

theorem not_holdsDirective_nil : ¬HoldsDirective [] :=
  audioSource?_eq_none_iff.mp rfl

/-- A newline in front of a text begins nothing, ends nothing and hides nothing. -/
theorem newline_cons_iff (text : Text) :
    (HoldsBlock ('\n' :: text) ↔ HoldsBlock text) ∧
      (ClosesBlock ('\n' :: text) ↔ ClosesBlock text) ∧
        (HoldsDirective ('\n' :: text) ↔ HoldsDirective text) := by
  have endsNothing : ¬EndsInDirective [] ∧ ¬EndsInAudioWord [] := by
    constructor
    · rintro ⟨before, blanks, name, _, _, _, equal⟩
      simp [audioWord] at equal
    · rintro ⟨before, blanks, _, equal⟩
      simp [audioWord] at equal
  have block := holdsBlock_append_newline_iff [] text
  have closing := closesBlock_append_newline_iff [] text
  have directive := holdsDirective_append_blank_iff isBlank_newline [] text
  refine ⟨?_, ?_, ?_⟩
  · simpa [not_holdsBlock_nil, not_opensBlock_nil] using block
  · simpa [not_closesBlock_nil] using closing
  · simpa [not_holdsDirective_nil, endsNothing] using directive

/-- Whether a block that is open closes in the first of some code segments that holds a star. -/
def ClosesAmong (codes : List Segment) : Prop :=
  ∃ middle last after, codes = middle ++ last :: after ∧
    (∀ segment ∈ middle, '*' ∉ segment.text) ∧ ClosesBlock last.text

/-- Whether a block opens in one of some code segments and closes in a later one. -/
def CrossesCode (codes : List Segment) : Prop :=
  ∃ before first after, codes = before ++ first :: after ∧ OpensBlock first.text ∧ ClosesAmong after

theorem not_closesAmong_nil : ¬ClosesAmong [] := by
  rintro ⟨middle, last, after, equal, _⟩
  simp at equal

theorem not_crossesCode_nil : ¬CrossesCode [] := by
  rintro ⟨before, first, after, equal, _⟩
  simp at equal

theorem closesAmong_cons_iff :
    ClosesAmong (segment :: codes) ↔
      ClosesBlock segment.text ∨ ('*' ∉ segment.text ∧ ClosesAmong codes) := by
  constructor
  · rintro ⟨middle, last, after, equal, starless, closes⟩
    cases middle with
    | nil =>
        simp only [List.nil_append, List.cons.injEq] at equal
        rw [equal.1]
        exact Or.inl closes
    | cons first middle =>
        simp only [List.cons_append, List.cons.injEq] at equal
        rcases equal with ⟨rfl, rfl⟩
        rw [List.forall_mem_cons] at starless
        exact Or.inr ⟨starless.1, middle, last, after, rfl, starless.2, closes⟩
  · rintro (closes | ⟨starless, middle, last, after, rfl, middleStarless, closes⟩)
    · exact ⟨[], segment, codes, rfl, by simp, closes⟩
    · refine ⟨segment :: middle, last, after, rfl, ?_, closes⟩
      rw [List.forall_mem_cons]
      exact ⟨starless, middleStarless⟩

theorem crossesCode_cons_iff :
    CrossesCode (segment :: codes) ↔
      (OpensBlock segment.text ∧ ClosesAmong codes) ∨ CrossesCode codes := by
  constructor
  · rintro ⟨before, first, after, equal, opens, closes⟩
    cases before with
    | nil =>
        simp only [List.nil_append, List.cons.injEq] at equal
        rcases equal with ⟨rfl, rfl⟩
        exact Or.inl ⟨opens, closes⟩
    | cons other before =>
        simp only [List.cons_append, List.cons.injEq] at equal
        exact Or.inr ⟨before, first, after, equal.2, opens, closes⟩
  · rintro (⟨opens, closes⟩ | ⟨before, first, after, rfl, opens, closes⟩)
    · exact ⟨[], segment, codes, rfl, opens, closes⟩
    · exact ⟨segment :: before, first, after, rfl, opens, closes⟩

theorem exists_mem_dropLast_cons_iff {p : Segment → Prop} :
    (∃ other ∈ (segment :: codes).dropLast, p other) ↔
      (p segment ∧ codes ≠ []) ∨ ∃ other ∈ codes.dropLast, p other := by
  cases codes <;> simp

section Script

variable (allCode : ∀ segment ∈ codes, segment.kind = .code)

include allCode

theorem closesBlock_completeScript_iff :
    ClosesBlock (completeScript codes) ↔ ClosesAmong codes := by
  induction codes with
  | nil => simp [not_closesBlock_nil, not_closesAmong_nil]
  | cons segment rest ih =>
      rw [List.forall_mem_cons] at allCode
      rw [completeScript_cons_code allCode.1, List.append_assoc, List.cons_append, List.cons_append,
        List.nil_append, closesBlock_append_newline_iff, (newline_cons_iff _).2.1, ih allCode.2,
        closesAmong_cons_iff, closesBlock_scriptBody_iff, star_mem_scriptBody_iff]

/-- The blocks in a script of code are those that stand in one code segment and those that open in
one and close in a later one. -/
theorem holdsBlock_completeScript_iff :
    HoldsBlock (completeScript codes) ↔
      (∃ segment ∈ codes, HoldsBlock segment.text) ∨ CrossesCode codes := by
  induction codes with
  | nil => simp [not_holdsBlock_nil, not_crossesCode_nil]
  | cons segment rest ih =>
      rw [List.forall_mem_cons] at allCode
      rw [completeScript_cons_code allCode.1, List.append_assoc, List.cons_append, List.cons_append,
        List.nil_append, holdsBlock_append_newline_iff, (newline_cons_iff _).1,
        (newline_cons_iff _).2.1, ih allCode.2, crossesCode_cons_iff, holdsBlock_scriptBody_iff,
        opensBlock_scriptBody_iff, closesBlock_completeScript_iff allCode.2]
      rw [List.exists_mem_cons_iff, or_assoc]
      exact or_congr_right or_left_comm

/-- A script of code that is not blank names a file if there is any code. -/
theorem beginsFileName_completeScript_iff
    (visible : ∀ segment ∈ codes, Text.allBlank segment.text = false) :
    BeginsFileName (completeScript codes) ↔ codes ≠ [] := by
  cases codes with
  | nil => simp [not_beginsFileName_nil]
  | cons segment rest =>
      rw [List.forall_mem_cons] at allCode visible
      rw [completeScript_cons_code allCode.1, List.append_assoc, List.cons_append]
      have begins := beginsFileName_append_blank (allBlank_scriptBody visible.1) isBlank_newline
        (['\n'] ++ completeScript rest)
      exact iff_of_true begins (List.cons_ne_nil segment rest)

/-- The directives in a script of code without directives are those that get a blank behind the name
of their file, and those whose file is named by the next code. -/
theorem holdsDirective_completeScript_iff
    (visible : ∀ segment ∈ codes, Text.allBlank segment.text = false)
    (silent : ∀ segment ∈ codes, ¬HoldsDirective segment.text) :
    HoldsDirective (completeScript codes) ↔
      (∃ segment ∈ codes, EndsInDirective segment.text) ∨
        ∃ segment ∈ codes.dropLast, EndsInAudioWord segment.text := by
  induction codes with
  | nil => simp [not_holdsDirective_nil]
  | cons segment rest ih =>
      rw [List.forall_mem_cons] at allCode visible silent
      have bodySilent : ¬HoldsDirective (scriptBody segment.text) :=
        fun holds => silent.1 (holdsDirective_of_scriptBody holds)
      have named := beginsFileName_completeScript_iff allCode.2 visible.2
      rw [completeScript_cons_code allCode.1, List.append_assoc, List.cons_append, List.cons_append,
        List.nil_append, holdsDirective_append_blank_iff isBlank_newline, (newline_cons_iff _).2.2,
        beginsFileName_newline_cons, named, ih allCode.2 visible.2 silent.2,
        endsInDirective_scriptBody_iff silent.1, endsInAudioWord_scriptBody_iff,
        List.exists_mem_cons_iff, exists_mem_dropLast_cons_iff, or_iff_right bodySilent, or_assoc]
      exact or_congr_right or_left_comm

end Script

theorem silent_of_mem_codeSegments (mem : segment ∈ codeSegments (segments text)) :
    ¬HoldsDirective segment.text := by
  rcases mem_codeSegments.mp mem with ⟨segmentMem, code⟩
  rcases exists_shows_of_mem_segmentsFrom segmentMem with ⟨start, stretch, _, shown⟩
  cases shown with
  | prose => simp [Segment.prose] at code
  | audio => simp [Segment.audio] at code
  | code _ _ silent => exact audioSource?_eq_none_iff.mp silent

/-- No code of a source holds an audio directive, and the complete script holds one only if code
ends in one that lacks the blank behind its file name, or if code before the last ends in the word
of one. The script holds a prose block only if code holds one, or if one opens in code and closes in
later code. -/
theorem excludes_iff (text : Text) :
    (∀ segment ∈ codeSegments (segments text), audioSource? segment.text = none) ∧
      (audioSource? (completeScript (segments text)) = none ↔
        (∀ segment ∈ codeSegments (segments text), ¬EndsInDirective segment.text) ∧
          ∀ segment ∈ (codeSegments (segments text)).dropLast, ¬EndsInAudioWord segment.text) ∧
      (¬HoldsBlock (completeScript (segments text)) ↔
        (∀ segment ∈ codeSegments (segments text), ¬HoldsBlock segment.text) ∧
          ¬CrossesCode (codeSegments (segments text))) := by
  have allCode : ∀ segment ∈ codeSegments (segments text), segment.kind = .code :=
    fun segment mem => (mem_codeSegments.mp mem).2
  refine ⟨?_, ?_, ?_⟩
  · intro segment mem
    exact audioSource?_eq_none_iff.mpr (silent_of_mem_codeSegments mem)
  · rw [audioSource?_eq_none_iff, ← completeScript_codeSegments,
      holdsDirective_completeScript_iff allCode
        (fun _ mem => allBlank_of_mem_codeSegments mem) fun _ mem => silent_of_mem_codeSegments mem]
    simp only [not_or, not_exists, not_and]
  · rw [← completeScript_codeSegments, holdsBlock_completeScript_iff allCode]
    simp only [not_or, not_exists, not_and]

/-- A directive on the last line of a source that does not end in a newline is read as code, and
stands as a directive in the complete script. -/
theorem audioSource?_of_directive_at_end :
    segments "/**\n# T\n*/\n$audio a.ogg".toList =
        [.prose "\n# T\n".toList, .code "\n$audio a.ogg".toList 0] ∧
      audioSource? (completeScript (segments "/**\n# T\n*/\n$audio a.ogg".toList)) =
        some "a.ogg".toList := by
  constructor <;> cbv

/- A block that opens in one code segment and closes in the next stands in the complete script. -/
example : completeScript (segments "/** a /**b*/ c */".toList) = "/** a\n\n c */\n\n".toList := by
  cbv

end ScriptSite.Source
