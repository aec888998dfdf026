import ScriptSite.Proofs.Source.Deletion

/-!
# Modelines that are left

Taking modelines out joins what stood before and behind them, and one pass does not look at the
joined text again. What is left holds a modeline only where one was interrupted: a line with nothing
but slashes, lines that all go or are blank, and a line that begins with the word. The first of
these is no modeline while the lines in between are there, and is one when they are gone.

A second pass changes what the first has left exactly if there is such a place
(`holdsModeline_stripModelines_iff`).
-/

namespace ScriptSite.Source

variable {line comment word start behind text rest : Text}
  {lines before between after tail group : List Text}

/-- Whether a modeline stands somewhere in a text. -/
def HoldsModeline (text : Text) : Prop :=
  ∃ before head options, IsModelineHead head ∧ text = before ++ '\n' :: (head ++ options)

/-- Whether some lines hold the lines of a modeline. -/
def HoldsModelineLines (lines : List Text) : Prop :=
  ∃ before group after, IsModelineLines group ∧ lines = before ++ (group ++ after)

/-- Whether no line but blank ones is left of some lines when modelines are taken out. -/
inductive Vanishes : List Text → Prop
  | nil : Vanishes []
  | blank {line : Text} {rest : List Text} (blank : Text.allBlank line = true)
      (vanishes : Vanishes rest) : Vanishes (line :: rest)
  | group {group rest : List Text} (isGroup : IsModelineLines group) (vanishes : Vanishes rest) :
      Vanishes (group ++ rest)

/-- Whether among some lines a modeline that is broken over lines has other modelines inside. -/
def HoldsInterruptedModeline (lines : List Text) : Prop :=
  ∃ before comment between word after,
    lines = before ++ comment :: (between ++ word :: after) ∧
      IsBareComment comment ∧ Vanishes between ∧ ¬AllBlank between ∧ IsWordLine word

theorem holdsModeline_cons_iff {c : Char} :
    HoldsModeline (c :: rest) ↔
      HoldsModeline rest ∨ c = '\n' ∧ ∃ after, afterModeline? rest = some after := by
  constructor
  · rintro ⟨_ | ⟨first, before⟩, head, options, isHead, equal⟩
    · simp only [List.nil_append, List.cons.injEq] at equal
      exact Or.inr ⟨equal.1, _, afterModeline?_eq_some_iff.mpr
        ⟨head, options, isHead, equal.2, rfl⟩⟩
    · simp only [List.cons_append, List.cons.injEq] at equal
      exact Or.inl ⟨before, head, options, isHead, equal.2⟩
  · rintro (⟨before, head, options, isHead, rfl⟩ | ⟨rfl, after, found⟩)
    · exact ⟨c :: before, head, options, isHead, rfl⟩
    · rcases afterModeline?_eq_some_iff.mp found with ⟨head, options, isHead, rfl, _⟩
      exact ⟨[], head, options, isHead, rfl⟩

/-- A text stays as it is exactly if no modeline stands in it. -/
theorem stripModelines_eq_self_iff (text : Text) :
    stripModelines text = text ↔ ¬HoldsModeline text := by
  fun_induction stripModelines text with
  | case1 =>
      refine iff_of_true rfl ?_
      rintro ⟨before, head, options, _, equal⟩
      simp at equal
  | case2 rest after found ih =>
      have holds : HoldsModeline ('\n' :: rest) :=
        holdsModeline_cons_iff.mpr (Or.inr ⟨rfl, after, found⟩)
      refine iff_of_false (fun same => ?_) (not_not_intro holds)
      have shorter := (stripModelines_sublist after).length_le
      have shorterRest := length_le_of_afterModeline? found
      rw [same, List.length_cons] at shorter
      omega
  | case3 rest absent ih =>
      rw [holdsModeline_cons_iff, List.cons.injEq, ih]
      simp [absent]
  | case4 c rest notNewline ih =>
      rw [holdsModeline_cons_iff, List.cons.injEq, ih]
      simp [notNewline]

theorem holdsModelineLines_cons_iff :
    HoldsModelineLines (line :: lines) ↔
      HoldsModelineLines lines ∨ ∃ after, linesAfter? (line :: lines) = some after := by
  constructor
  · rintro ⟨_ | ⟨first, before⟩, group, after, isGroup, equal⟩
    · exact Or.inr ⟨after, linesAfter?_eq_some_iff.mpr ⟨group, isGroup, equal⟩⟩
    · simp only [List.cons_append, List.cons.injEq] at equal
      exact Or.inl ⟨before, group, after, isGroup, equal.2⟩
  · rintro (⟨before, group, after, isGroup, rfl⟩ | ⟨after, found⟩)
    · exact ⟨line :: before, group, after, isGroup, rfl⟩
    · rcases linesAfter?_eq_some_iff.mp found with ⟨group, isGroup, equal⟩
      exact ⟨[], group, after, isGroup, equal⟩

/-- Lines stay as they are exactly if no modeline stands among them. -/
theorem stripLines_eq_self_iff (lines : List Text) :
    stripLines lines = lines ↔ ¬HoldsModelineLines lines := by
  fun_induction stripLines lines with
  | case1 =>
      refine iff_of_true rfl ?_
      rintro ⟨before, group, after, isGroup, equal⟩
      cases isGroup <;> simp at equal
  | case2 line rest after found ih =>
      have holds : HoldsModelineLines (line :: rest) :=
        holdsModelineLines_cons_iff.mpr (Or.inr ⟨after, found⟩)
      refine iff_of_false (fun same => ?_) (not_not_intro holds)
      have shorter := (stripLines_sublist after).length_le
      have shorterAfter := length_lt_of_linesAfter? found
      rw [same] at shorter
      omega
  | case3 line rest absent ih =>
      rw [holdsModelineLines_cons_iff, List.cons.injEq, ih]
      simp [absent]

/-- A modeline stands in a text exactly if one stands among its lines below the first. -/
theorem holdsModeline_append_continued_iff (firstWhole : '\n' ∉ line)
    (restWhole : ∀ other ∈ lines, '\n' ∉ other) :
    HoldsModeline (line ++ Text.continued lines) ↔ HoldsModelineLines lines := by
  have keptWhole : ∀ other ∈ stripLines lines, '\n' ∉ other :=
    fun other mem => restWhole other ((stripLines_sublist lines).mem mem)
  rw [← not_iff_not, ← stripModelines_eq_self_iff, ← stripLines_eq_self_iff,
    stripModelines_append_continued firstWhole restWhole]
  constructor
  · intro same
    have sameLines := congrArg Text.lines same
    rw [Text.lines_append_continued firstWhole keptWhole,
      Text.lines_append_continued firstWhole restWhole, List.cons.injEq] at sameLines
    exact sameLines.2
  · intro same
    rw [same]

theorem below?_append_of_allBlank (blank : AllBlank before) (tail : List Text) :
    below? start (before ++ tail) = below? start tail := by
  induction before with
  | nil => rfl
  | cons line before ih =>
      rcases List.forall_mem_cons.mp blank with ⟨lineBlank, beforeBlank⟩
      rw [List.cons_append, below?, if_pos lineBlank, ih beforeBlank]

theorem below?_append_of_not_allBlank (visible : ¬AllBlank before) (tail : List Text) :
    below? start (before ++ tail) =
      (below? start before).map fun (behind, after) => (behind, after ++ tail) := by
  induction before with
  | nil => exact absurd (fun _ mem => absurd mem List.not_mem_nil) visible
  | cons line before ih =>
      rw [List.cons_append, below?, below?]
      split
      · rename_i lineBlank
        exact ih fun blank => visible (List.forall_mem_cons.mpr ⟨lineBlank, blank⟩)
      · simp [Option.map_map, Function.comp_def]

theorem below?_eq_none_of_allBlank (blank : AllBlank lines) : below? start lines = none := by
  simpa [below?] using below?_append_of_allBlank blank []

/-- Lines that neither begin with a modeline nor with the word let no modeline before them reach
into them. -/
theorem linesAfter?_append (noModeline : linesAfter? tail = none)
    (noWord : below? ['v', 'i', 'm', ':'] tail = none) (before : List Text) :
    linesAfter? (before ++ tail) = (linesAfter? before).map (· ++ tail) := by
  by_cases blank : AllBlank before
  · have none : linesAfter? before = none := by
      rw [linesAfter?, below?_eq_none_of_allBlank blank, Option.bind_none]
    rw [none, linesAfter?, below?_append_of_allBlank blank, Option.map_none, ← noModeline,
      linesAfter?]
  · rw [linesAfter?, linesAfter?, below?_append_of_not_allBlank blank]
    cases below? ['/', '/'] before with
    | none => rfl
    | some found =>
        rcases found with ⟨comment, rest⟩
        simp only [Option.map_some, Option.bind_some]
        rw [← List.cons_append]
        by_cases restBlank : AllBlank (comment :: rest)
        · rw [below?_append_of_allBlank restBlank, noWord, below?_eq_none_of_allBlank restBlank]
          rfl
        · rw [below?_append_of_not_allBlank restBlank, Option.map_map, Option.map_map]
          rfl

theorem stripLines_append (noModeline : linesAfter? tail = none)
    (noWord : below? ['v', 'i', 'm', ':'] tail = none) (before : List Text) :
    stripLines (before ++ tail) = stripLines before ++ stripLines tail := by
  have reach := linesAfter?_append noModeline noWord
  fun_induction stripLines before with
  | case1 => rfl
  | case2 line rest after found ih =>
      have wholeFound := reach (line :: rest)
      rw [found] at wholeFound
      rw [stripLines_of_some wholeFound, ih]
  | case3 line rest absent ih =>
      have wholeAbsent := reach (line :: rest)
      rw [absent] at wholeAbsent
      rw [List.cons_append] at wholeAbsent ⊢
      rw [stripLines_cons_of_none wholeAbsent, ih, List.cons_append]

theorem linesAfter?_group_append (isGroup : IsModelineLines group) (rest : List Text) :
    linesAfter? (group ++ rest) = some rest :=
  linesAfter?_eq_some_iff.mpr ⟨group, isGroup, rfl⟩

/-- A blank line before a modeline goes with it, and stays otherwise. -/
theorem stripLines_blank_cons (blank : Text.allBlank line = true) (rest : List Text) :
    stripLines (line :: rest) = stripLines rest ∨
      stripLines (line :: rest) = line :: stripLines rest := by
  have same : linesAfter? (line :: rest) = linesAfter? rest := by
    rw [linesAfter?, linesAfter?, below?, if_pos blank]
  cases found : linesAfter? rest with
  | none => exact Or.inr (stripLines_cons_of_none (same.trans found))
  | some after =>
      rw [stripLines_of_some (same.trans found), stripLines_of_some found]
      exact Or.inl rfl

theorem below?_bareComment_cons (isComment : IsBareComment comment) (tail : List Text) :
    below? ['v', 'i', 'm', ':'] (comment :: tail) = none ∧
      ∃ behind, Text.allBlank behind = true ∧
        below? ['/', '/'] (comment :: tail) = some (behind, tail) := by
  rcases isComment with ⟨left, right, leftBlank, rightBlank, rfl⟩
  refine ⟨?_, right, rightBlank, ?_⟩
  · rw [below?_visible_cons leftBlank rfl]
    rfl
  · rw [below?_visible_cons leftBlank rfl]
    rfl

theorem linesAfter?_bareComment_cons (isComment : IsBareComment comment)
    (noWord : below? ['v', 'i', 'm', ':'] tail = none) :
    linesAfter? (comment :: tail) = none := by
  rcases (below?_bareComment_cons isComment tail).2 with ⟨behind, blank, slashes⟩
  rw [linesAfter?, slashes]
  show (below? ['v', 'i', 'm', ':'] (behind :: tail)).map Prod.snd = none
  rw [below?, if_pos blank, noWord, Option.map_none]

theorem linesAfter?_wordLine_cons (isWord : IsWordLine word) (tail : List Text) :
    linesAfter? (word :: tail) = none := by
  rcases isWord with ⟨left, options, leftBlank, rfl⟩
  rw [linesAfter?, below?_visible_cons leftBlank rfl]
  rfl

/-- The first visible line of a modeline has slashes, and not the word. -/
theorem below?_word_group_append (isGroup : IsModelineLines group) (rest : List Text) :
    below? ['v', 'i', 'm', ':'] (group ++ rest) = none := by
  cases isGroup with
  | @whole blanks line blank isModeline =>
      rcases isModeline with ⟨_, options, ⟨left, right, leftBlank, _, rfl⟩, rfl⟩
      rw [List.append_assoc, below?_append_of_allBlank blank, List.append_assoc left,
        List.cons_append, List.cons_append, below?_visible_cons leftBlank rfl]
      rfl
  | @broken blanks between comment word blank isComment betweenBlank isWord =>
      rw [List.append_assoc, below?_append_of_allBlank blank, List.cons_append]
      exact (below?_bareComment_cons isComment _).1

theorem below?_word_append_of_vanishes (vanishes : Vanishes between) (visible : ¬AllBlank between)
    (rest : List Text) : below? ['v', 'i', 'm', ':'] (between ++ rest) = none := by
  induction vanishes with
  | nil => exact absurd (fun _ mem => absurd mem List.not_mem_nil) visible
  | blank lineBlank _ ih =>
      rw [List.cons_append, below?, if_pos lineBlank]
      exact ih fun restBlank => visible (List.forall_mem_cons.mpr ⟨lineBlank, restBlank⟩)
  | group isGroup _ _ =>
      rw [List.append_assoc]
      exact below?_word_group_append isGroup _

/-- Of lines that vanish only blank ones are left in front of a line that begins with the word. -/
theorem exists_stripLines_vanishing_append (vanishes : Vanishes between) (isWord : IsWordLine word)
    (after : List Text) :
    ∃ blanks, AllBlank blanks ∧
      stripLines (between ++ word :: after) = blanks ++ word :: stripLines after := by
  induction vanishes with
  | nil =>
      refine ⟨[], .nil, ?_⟩
      exact stripLines_cons_of_none (linesAfter?_wordLine_cons isWord after)
  | @blank line rest lineBlank _ ih =>
      rcases ih with ⟨blanks, blank, equal⟩
      rcases stripLines_blank_cons lineBlank (rest ++ word :: after) with gone | stays
      · exact ⟨blanks, blank, by rw [List.cons_append, gone, equal]⟩
      · refine ⟨line :: blanks, List.forall_mem_cons.mpr ⟨lineBlank, blank⟩, ?_⟩
        rw [List.cons_append, stays, equal, List.cons_append]
  | group isGroup _ ih =>
      rw [List.append_assoc, stripLines_of_some (linesAfter?_group_append isGroup _)]
      exact ih

theorem vanishes_of_allBlank_stripLines (blank : AllBlank (stripLines lines)) : Vanishes lines := by
  fun_induction stripLines lines with
  | case1 => exact .nil
  | case2 line rest after found ih =>
      rcases linesAfter?_eq_some_iff.mp found with ⟨group, isGroup, equal⟩
      rw [equal]
      exact .group isGroup (ih blank)
  | case3 line rest absent ih =>
      rcases List.forall_mem_cons.mp blank with ⟨lineBlank, restBlank⟩
      exact .blank lineBlank (ih restBlank)

/-- A line that stays parts the lines before it from the lines behind it. -/
theorem exists_of_stripLines_eq_append {kept : List Text}
    (equal : stripLines lines = kept ++ line :: tail) :
    ∃ before after, lines = before ++ line :: after ∧ stripLines before = kept := by
  fun_induction stripLines lines generalizing kept with
  | case1 => simp at equal
  | case2 first rest after found ih =>
      rcases ih equal with ⟨before, behind, afterEq, strippedEq⟩
      rcases linesAfter?_eq_some_iff.mp found with ⟨group, isGroup, linesEq⟩
      refine ⟨group ++ before, behind, by rw [linesEq, afterEq, List.append_assoc], ?_⟩
      rw [stripLines_of_some (linesAfter?_group_append isGroup before), strippedEq]
  | case3 first rest absent ih =>
      cases kept with
      | nil =>
          simp only [List.nil_append, List.cons.injEq] at equal
          exact ⟨[], rest, by rw [equal.1]; rfl, stripLines_nil⟩
      | cons other kept =>
          simp only [List.cons_append, List.cons.injEq] at equal
          rcases equal with ⟨rfl, equal⟩
          rcases ih equal with ⟨before, after, rfl, strippedEq⟩
          refine ⟨first :: before, after, rfl, ?_⟩
          have stillAbsent : linesAfter? (first :: before) = none := by
            rw [Option.eq_none_iff_forall_ne_some]
            intro behind found
            rcases linesAfter?_eq_some_iff.mp found with ⟨group, isGroup, groupEq⟩
            have wholeFound : linesAfter? (first :: (before ++ line :: after)) =
                some (behind ++ line :: after) :=
              linesAfter?_eq_some_iff.mpr ⟨group, isGroup, by
                rw [← List.cons_append, groupEq, List.append_assoc]⟩
            simp [absent] at wholeFound
          rw [stripLines_cons_of_none stillAbsent, strippedEq]

theorem HoldsInterruptedModeline.cons (holds : HoldsInterruptedModeline lines) (line : Text) :
    HoldsInterruptedModeline (line :: lines) := by
  rcases holds with ⟨before, comment, between, word, after, rfl, parts⟩
  exact ⟨line :: before, comment, between, word, after, rfl, parts⟩

/-- A modeline that is left among lines was interrupted. -/
theorem holdsInterruptedModeline_of_stripLines (holds : HoldsModelineLines (stripLines lines)) :
    HoldsInterruptedModeline lines := by
  fun_induction stripLines lines with
  | case1 =>
      have stays := (stripLines_eq_self_iff []).mp stripLines_nil
      exact absurd holds stays
  | case2 line rest after found ih =>
      rcases ih holds with ⟨before, comment, between, word, last, afterEq, parts⟩
      rcases linesAfter?_eq_some_iff.mp found with ⟨group, _, linesEq⟩
      exact ⟨group ++ before, comment, between, word, last, by
        rw [linesEq, afterEq, List.append_assoc], parts⟩
  | case3 line rest absent ih =>
      rcases holdsModelineLines_cons_iff.mp holds with inRest | ⟨after, found⟩
      · exact (ih inRest).cons line
      rcases linesAfter?_eq_some_iff.mp found with ⟨group, isGroup, equal⟩
      cases isGroup with
      | @whole blanks modeline blank isModeline =>
          cases blanks with
          | nil =>
              simp only [List.nil_append, List.cons_append, List.cons.injEq] at equal
              rw [equal.1] at absent
              have begins : IsModelineLines [modeline] := .singleton isModeline
              have wholeFound := linesAfter?_group_append begins rest
              simp [absent] at wholeFound
          | cons first blanks =>
              simp only [List.cons_append, List.cons.injEq] at equal
              refine (ih ⟨[], blanks ++ [modeline], after, ?_, equal.2⟩).cons line
              exact .whole (List.forall_mem_cons.mp blank).2 isModeline
      | @broken blanks between comment word blank isComment betweenBlank isWord =>
          cases blanks with
          | nil =>
              simp only [List.nil_append, List.cons_append, List.append_assoc,
                List.cons.injEq] at equal
              rcases equal with ⟨rfl, equal⟩
              rcases exists_of_stripLines_eq_append equal with ⟨inside, last, rfl, strippedEq⟩
              have vanishes : Vanishes inside :=
                vanishes_of_allBlank_stripLines (strippedEq ▸ betweenBlank)
              refine ⟨[], line, inside, word, last, rfl, isComment, vanishes, ?_, isWord⟩
              intro insideBlank
              have begins : IsModelineLines (line :: (inside ++ [word])) :=
                .pair isComment insideBlank isWord
              have wholeFound : linesAfter? (line :: (inside ++ word :: last)) = some last :=
                linesAfter?_eq_some_iff.mpr ⟨_, begins, by simp⟩
              simp [absent] at wholeFound
          | cons first blanks =>
              simp only [List.cons_append, List.cons.injEq] at equal
              have isGroup : IsModelineLines (blanks ++ comment :: (between ++ [word])) :=
                .broken (List.forall_mem_cons.mp blank).2 isComment betweenBlank isWord
              exact (ih ⟨[], _, after, isGroup, equal.2⟩).cons line

/-- An interrupted modeline is left among the lines when the modelines inside are gone. -/
theorem HoldsInterruptedModeline.holdsModelineLines (holds : HoldsInterruptedModeline lines) :
    HoldsModelineLines (stripLines lines) := by
  rcases holds with ⟨before, comment, between, word, after, rfl, isComment, vanishes, visible,
    isWord⟩
  have noWord := below?_word_append_of_vanishes vanishes visible (word :: after)
  have absent := linesAfter?_bareComment_cons isComment noWord
  rcases exists_stripLines_vanishing_append vanishes isWord after with ⟨blanks, blank, equal⟩
  rw [stripLines_append absent (below?_bareComment_cons isComment _).1,
    stripLines_cons_of_none absent, equal]
  refine ⟨stripLines before, comment :: (blanks ++ [word]), stripLines after, ?_, by simp⟩
  exact .pair isComment blank isWord

/-- A modeline is left in a text without its modelines exactly if one was interrupted by others
below the first line, and exactly then taking modelines out once more takes more out. -/
theorem holdsModeline_stripModelines_iff (text : Text) :
    (HoldsModeline (stripModelines text) ↔ HoldsInterruptedModeline (Text.lines text).tail) ∧
      (stripModelines (stripModelines text) = stripModelines text ↔
        ¬HoldsInterruptedModeline (Text.lines text).tail) := by
  have left_iff : HoldsModeline (stripModelines text) ↔
      HoldsInterruptedModeline (Text.lines text).tail := by
    rcases Text.exists_eq_append_continued text with ⟨first, rest, firstWhole, restWhole, rfl⟩
    have keptWhole : ∀ line ∈ stripLines rest, '\n' ∉ line :=
      fun line mem => restWhole line ((stripLines_sublist rest).mem mem)
    rw [stripModelines_append_continued firstWhole restWhole,
      holdsModeline_append_continued_iff firstWhole keptWhole,
      Text.lines_append_continued firstWhole restWhole, List.tail_cons]
    exact ⟨holdsInterruptedModeline_of_stripLines, HoldsInterruptedModeline.holdsModelineLines⟩
  refine ⟨left_iff, ?_⟩
  rw [stripModelines_eq_self_iff, left_iff]

/-- A modeline between an empty comment and a labelled line leaves a modeline behind. -/
theorem holdsModeline_of_interrupted_label :
    stripModelines "a();\n//\n// vim: ts=4\nvim: b();\n".toList =
        "a();\n//\nvim: b();\n".toList ∧
      HoldsModeline (stripModelines "a();\n//\n// vim: ts=4\nvim: b();\n".toList) ∧
      stripModelines (stripModelines "a();\n//\n// vim: ts=4\nvim: b();\n".toList) =
        "a();\n".toList := by
  have once : stripModelines "a();\n//\n// vim: ts=4\nvim: b();\n".toList =
      "a();\n//\nvim: b();\n".toList := by cbv
  refine ⟨once, ?_, by rw [once]; cbv⟩
  rw [once]
  exact ⟨"a();".toList, "//\nvim:".toList, " b();\n".toList, ⟨[], ['\n'], rfl, rfl, rfl⟩, rfl⟩

end ScriptSite.Source
