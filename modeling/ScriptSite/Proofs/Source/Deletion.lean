import ScriptSite.Proofs.Source.ModelineLines

/-!
# Which lines modelines take with them

Taking modelines out of a text leaves its first line and takes lines out of the others. The lines
that go are the groups of lines that a modeline takes up (`Thins`). Most of them are blank, or hold
a modeline and nothing else. But the blanks behind the two slashes may hold newlines as well: a line
with nothing but slashes goes if the next line that is not blank begins with the word, and that line
goes with it, whatever it is.

So nothing but blank lines and modelines goes exactly if no such pair of lines stands below the
first line (`deletesOnlyModelines_iff`).
-/

namespace ScriptSite.Source

variable {line comment : Text} {lines kept after group : List Text} {p : Text → Prop}

/-- Whether some lines are what is left of others after lines with a property are deleted. -/
inductive Deletes (p : Text → Prop) : List Text → List Text → Prop
  | nil : Deletes p [] []
  | keep {lines kept : List Text} (line : Text) (rest : Deletes p lines kept) :
      Deletes p (line :: lines) (line :: kept)
  | delete {lines kept : List Text} {line : Text} (has : p line) (rest : Deletes p lines kept) :
      Deletes p (line :: lines) kept

/-- Whether some lines are what is left of others after modelines are taken out. -/
inductive Thins : List Text → List Text → Prop
  | nil : Thins [] []
  | keep {lines kept : List Text} (line : Text) (rest : Thins lines kept) :
      Thins (line :: lines) (line :: kept)
  | delete {group lines kept : List Text} (isGroup : IsModelineLines group)
      (rest : Thins lines kept) : Thins (group ++ lines) kept

theorem isModelineLine_iff : IsModelineLine line ↔ (afterModeline? line).isSome = true := by
  rw [Option.isSome_iff_exists]
  constructor
  · rintro ⟨head, options, isHead, equal⟩
    exact ⟨_, afterModeline?_eq_some_iff.mpr ⟨head, options, isHead, equal, rfl⟩⟩
  · rintro ⟨after, found⟩
    rcases afterModeline?_eq_some_iff.mp found with ⟨head, options, isHead, equal, _⟩
    exact ⟨head, options, isHead, equal⟩

instance : DecidablePred IsModelineLine := fun _ => decidable_of_iff _ isModelineLine_iff.symm

/-- Whether a line is no code: it is blank, or holds a modeline and nothing else. -/
def IsIdle (line : Text) : Prop :=
  Text.allBlank line = true ∨ IsModelineLine line

instance : DecidablePred IsIdle := fun _ => inferInstanceAs (Decidable (_ ∨ _))

/-- Whether taking modelines out of a text deletes nothing but idle lines below the first. -/
def DeletesOnlyModelines (text : Text) : Prop :=
  ∃ first rest kept, Text.lines text = first :: rest ∧
    Text.lines (stripModelines text) = first :: kept ∧ Deletes IsIdle rest kept

/-- Whether among some lines a line of slashes has, blank lines aside, a line behind it that begins
with the word of a modeline. -/
def HoldsBrokenModeline (lines : List Text) : Prop :=
  ∃ before comment between word after,
    lines = before ++ comment :: (between ++ word :: after) ∧
      IsBareComment comment ∧ AllBlank between ∧ IsWordLine word

theorem Deletes.append (idle : ∀ line ∈ group, p line) (deletes : Deletes p lines kept) :
    Deletes p (group ++ lines) kept := by
  induction group with
  | nil => exact deletes
  | cons line group ih =>
      rcases List.forall_mem_cons.mp idle with ⟨first, rest⟩
      exact .delete first (ih rest)

/-- The other lines are those that were there before. -/
theorem Deletes.filter_eq [DecidablePred p] (deletes : Deletes p lines kept) :
    lines.filter (¬p ·) = kept.filter (¬p ·) := by
  induction deletes with
  | nil => rfl
  | keep line rest ih => simp only [List.filter_cons, ih]
  | delete has rest ih => simpa [List.filter_cons, has] using ih

/-- What is left in a text without modelines is what is left of its lines. -/
theorem lines_stripModelines (text : Text) :
    ∃ first rest, Text.lines text = first :: rest ∧
      Text.lines (stripModelines text) = first :: stripLines rest := by
  rcases Text.exists_eq_append_continued text with ⟨first, rest, firstWhole, restWhole, rfl⟩
  have keptWhole : ∀ line ∈ stripLines rest, '\n' ∉ line :=
    fun line mem => restWhole line ((stripLines_sublist rest).mem mem)
  refine ⟨first, rest, Text.lines_append_continued firstWhole restWhole, ?_⟩
  rw [stripModelines_append_continued firstWhole restWhole,
    Text.lines_append_continued firstWhole keptWhole]

theorem thins_stripLines (lines : List Text) : Thins lines (stripLines lines) := by
  fun_induction stripLines lines with
  | case1 => exact .nil
  | case2 line rest after found ih =>
      rcases linesAfter?_eq_some_iff.mp found with ⟨group, isGroup, equal⟩
      rw [equal]
      exact .delete isGroup ih
  | case3 line rest absent ih => exact .keep line ih

theorem not_isIdle_of_isBareComment (isComment : IsBareComment line) : ¬IsIdle line := by
  rcases isComment with ⟨left, right, leftBlank, rightBlank, rfl⟩
  have slash : isBlank '/' = false := rfl
  have nothing : Text.trimLeft right = [] := by
    simpa [Text.trimLeft] using Text.allBlank_iff.mp rightBlank
  rintro (blank | isModeline)
  · have impossible := Text.allBlank_iff.mp blank '/' (by simp)
    simp [slash] at impossible
  · rw [isModelineLine_iff, afterModeline?, Text.trimLeft_append_of_allBlank leftBlank,
      Text.trimLeft_cons_of_visible slash] at isModeline
    simp [Text.dropPrefix?, nothing] at isModeline

theorem isIdle_of_mem_whole {blanks : List Text} (blank : AllBlank blanks)
    (isModeline : IsModelineLine line) : ∀ other ∈ blanks ++ [line], IsIdle other := by
  intro other mem
  rcases List.mem_append.mp mem with inBlanks | last
  · exact Or.inl (blank other inBlanks)
  · rw [List.mem_singleton.mp last]
    exact Or.inr isModeline

theorem HoldsBrokenModeline.cons (holds : HoldsBrokenModeline lines) (line : Text) :
    HoldsBrokenModeline (line :: lines) := by
  rcases holds with ⟨before, comment, between, word, after, rfl, parts⟩
  exact ⟨line :: before, comment, between, word, after, rfl, parts⟩

theorem HoldsBrokenModeline.append (holds : HoldsBrokenModeline lines) (group : List Text) :
    HoldsBrokenModeline (group ++ lines) := by
  rcases holds with ⟨before, comment, between, word, after, rfl, parts⟩
  exact ⟨group ++ before, comment, between, word, after, by simp, parts⟩

theorem deletes_stripLines (unbroken : ¬HoldsBrokenModeline lines) :
    Deletes IsIdle lines (stripLines lines) := by
  fun_induction stripLines lines with
  | case1 => exact .nil
  | case2 line rest after found ih =>
      rcases linesAfter?_eq_some_iff.mp found with ⟨group, isGroup, equal⟩
      rw [equal] at unbroken ⊢
      have restUnbroken : ¬HoldsBrokenModeline after := fun holds => unbroken (holds.append group)
      cases isGroup with
      | whole blank isModeline =>
          exact (ih restUnbroken).append (isIdle_of_mem_whole blank isModeline)
      | @broken blanks between comment word blank isComment betweenBlank isWord =>
          refine absurd ⟨blanks, comment, between, word, after, ?_, isComment, betweenBlank, isWord⟩
            unbroken
          simp
  | case3 line rest absent ih =>
      exact .keep line (ih fun holds => unbroken (holds.cons line))

/-- Behind idle lines, a broken modeline stands among the lines that follow. -/
theorem HoldsBrokenModeline.of_append (idle : ∀ line ∈ group, IsIdle line)
    (holds : HoldsBrokenModeline (group ++ lines)) : HoldsBrokenModeline lines := by
  induction group with
  | nil => exact holds
  | cons line group ih =>
      rcases List.forall_mem_cons.mp idle with ⟨lineIdle, groupIdle⟩
      apply ih groupIdle
      rcases holds with ⟨before, comment, between, word, after, equal, isComment, parts⟩
      cases before with
      | nil =>
          simp only [List.cons_append, List.nil_append, List.cons.injEq] at equal
          rw [equal.1] at lineIdle
          exact absurd lineIdle (not_isIdle_of_isBareComment isComment)
      | cons first before =>
          simp only [List.cons_append, List.cons.injEq] at equal
          exact ⟨before, comment, between, word, after, equal.2, isComment, parts⟩

/-- A broken modeline takes at least one line with it that is not idle. -/
theorem length_filter_stripLines_lt (holds : HoldsBrokenModeline lines) :
    ((stripLines lines).filter (¬IsIdle ·)).length < (lines.filter (¬IsIdle ·)).length := by
  fun_induction stripLines lines with
  | case1 =>
      rcases holds with ⟨before, comment, between, word, after, equal, _⟩
      simp at equal
  | case2 line rest after found ih =>
      rcases linesAfter?_eq_some_iff.mp found with ⟨group, isGroup, equal⟩
      rw [equal] at holds ⊢
      cases isGroup with
      | @whole blanks line blank isModeline =>
          have idle := isIdle_of_mem_whole blank isModeline
          have none : (blanks ++ [line]).filter (¬IsIdle ·) = [] := by
            rw [List.filter_eq_nil_iff]
            intro other mem
            simpa using idle other mem
          rw [List.filter_append, none]
          exact ih (holds.of_append idle)
      | @broken blanks between comment word blank isComment betweenBlank isWord =>
          have fewer := ((stripLines_sublist after).filter (¬IsIdle ·)).length_le
          have busy : comment ∈ (blanks ++ comment :: (between ++ [word])).filter (¬IsIdle ·) :=
            List.mem_filter.mpr
              ⟨by simp, decide_eq_true (not_isIdle_of_isBareComment isComment)⟩
          have one := List.length_pos_of_mem busy
          rw [List.filter_append, List.length_append]
          omega
  | case3 line rest absent ih =>
      rcases holds with ⟨before, comment, between, word, after, equal, isComment, parts⟩
      cases before with
      | nil =>
          have begins : IsModelineLines (comment :: (between ++ [word])) :=
            .pair isComment parts.1 parts.2
          simp only [List.nil_append, List.cons.injEq] at equal
          rcases equal with ⟨rfl, rfl⟩
          have found : linesAfter? (line :: (between ++ word :: after)) = some after :=
            linesAfter?_eq_some_iff.mpr ⟨_, begins, by simp⟩
          simp [absent] at found
      | cons first before =>
          simp only [List.cons_append, List.cons.injEq] at equal
          have fewer := ih ⟨before, comment, between, word, after, equal.2, isComment, parts⟩
          by_cases idle : IsIdle line
          · simpa [List.filter_cons, idle] using fewer
          · simpa [List.filter_cons, idle] using fewer

/-- The first line of a text stays, and what goes below it are the groups of lines that modelines
take up. Nothing but blank lines and modelines goes exactly if no modeline is broken over lines. -/
theorem deletesOnlyModelines_iff (text : Text) :
    (∃ first rest kept, Text.lines text = first :: rest ∧
        Text.lines (stripModelines text) = first :: kept ∧ Thins rest kept) ∧
      (DeletesOnlyModelines text ↔ ¬HoldsBrokenModeline (Text.lines text).tail) := by
  rcases lines_stripModelines text with ⟨first, rest, linesEq, strippedEq⟩
  refine ⟨⟨first, rest, _, linesEq, strippedEq, thins_stripLines rest⟩, ?_⟩
  rw [linesEq, List.tail_cons]
  constructor
  · rintro ⟨other, otherRest, kept, otherEq, keptEq, deletes⟩ holds
    rw [linesEq, List.cons.injEq] at otherEq
    rw [strippedEq, List.cons.injEq] at keptEq
    rw [← otherEq.2, ← keptEq.2] at deletes
    have fewer := length_filter_stripLines_lt holds
    rw [deletes.filter_eq] at fewer
    exact absurd fewer (Nat.lt_irrefl _)
  · intro unbroken
    exact ⟨first, rest, _, linesEq, strippedEq, deletes_stripLines unbroken⟩

/-- A labelled line below an empty comment is taken for a modeline and goes. -/
theorem not_deletesOnlyModelines_of_label :
    stripModelines "a();\n//\nvim: b();\n".toList = "a();\n".toList ∧
      ¬DeletesOnlyModelines "a();\n//\nvim: b();\n".toList := by
  have stripped : stripModelines "a();\n//\nvim: b();\n".toList = "a();\n".toList := by cbv
  refine ⟨stripped, ?_⟩
  rintro ⟨first, rest, kept, linesEq, keptEq, deletes⟩
  have linesAre : Text.lines "a();\n//\nvim: b();\n".toList =
      ["a();".toList, "//".toList, "vim: b();".toList, []] := by cbv
  have keptAre : Text.lines "a();\n".toList = ["a();".toList, []] := by cbv
  rw [linesAre, List.cons.injEq] at linesEq
  rw [stripped, keptAre, List.cons.injEq] at keptEq
  rw [← linesEq.2, ← keptEq.2] at deletes
  have same := deletes.filter_eq
  revert same
  decide

end ScriptSite.Source
