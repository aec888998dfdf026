import Mathlib.Data.List.Basic
import ScriptSite.Proofs.Text.Trim
import ScriptSite.Source.Title

/-!
# How a title is read

A title can be read in a text wherever a number sign stands before blanks and a run of characters of
one line, which must not be empty. There may be many such readings, since blanks belong to either
part and any number sign will do. The reading that counts is the first one; of several at one number
sign the one with the most blanks, and then the one with the longest run (`IsPreferred`).

The title of a source is found by a scan instead, which looks at the text behind the first number
sign only and goes through it once. `title?_iff_scans` says that the scan finds what is read.
-/

namespace ScriptSite.Source

variable {text rest title other before blanks otherBlanks : Text} {c : Char}

/-- Whether a title can be read behind a number sign, after some blanks. -/
structure Reads (blanks title rest : Text) : Prop where
  blank : Text.allBlank blanks = true
  nonempty : title ≠ []
  inLine : '\n' ∉ title
  begins : blanks ++ title <+: rest

/-- Whether a title can be read in a text, at the number sign behind some other text. -/
def ReadsAt (before blanks title text : Text) : Prop :=
  ∃ rest, text = before ++ '#' :: rest ∧ Reads blanks title rest

/-- Whether a way to read a title is preferred to all others. -/
structure IsPreferred (before blanks title text : Text) : Prop where
  reads : ReadsAt before blanks title text
  first : ∀ other otherBlanks otherTitle, ReadsAt other otherBlanks otherTitle text →
    before.length ≤ other.length
  most_blanks : ∀ otherBlanks otherTitle, ReadsAt before otherBlanks otherTitle text →
    otherBlanks.length ≤ blanks.length
  longest : ∀ otherTitle, ReadsAt before blanks otherTitle text → otherTitle.length ≤ title.length

/-- Whether a text follows the first number sign of another text. -/
def FollowsSign (rest text : Text) : Prop :=
  ∃ before, '#' ∉ before ∧ text = before ++ '#' :: rest

/-- What the scan finds in the text behind a number sign: the line from the first visible character
on, or, if all is blank, the last character that is no newline. -/
inductive Scans : (rest title : Text) → Prop
  | line {blanks : Text} {c : Char} {line after : Text} (blank : Text.allBlank blanks = true)
      (visible : isBlank c = false) (inLine : '\n' ∉ line)
      (stops : after = [] ∨ ∃ below, after = '\n' :: below) :
      Scans (blanks ++ (c :: line ++ after)) (c :: line)
  | blank {blanks : Text} {c : Char} {newlines : Text} (blank : Text.allBlank blanks = true)
      (last : isBlank c = true) (notNewline : c ≠ '\n') (onlyNewlines : ∀ d ∈ newlines, d = '\n') :
      Scans (blanks ++ c :: newlines) [c]

theorem ne_newline_of_isBlank_eq_false (visible : isBlank c = false) : c ≠ '\n' := by
  rintro rfl
  simp at visible

theorem Scans.ne_nil_and_newline_notMem (scans : Scans rest title) : title ≠ [] ∧ '\n' ∉ title := by
  cases scans with
  | line _ visible inLine =>
      simp [inLine, Ne.symm (ne_newline_of_isBlank_eq_false visible)]
  | blank _ _ notNewline => simp [Ne.symm notNewline]

theorem getLast?_filter_eq_some_iff {p : Char → Bool} :
    (text.filter p).getLast? = some c ↔
      p c = true ∧ ∃ front back, text = front ++ c :: back ∧ ∀ d ∈ back, p d = false := by
  rw [List.getLast?_filter, List.find?_eq_some_iff_append]
  refine and_congr_right fun _ => ⟨?_, ?_⟩
  · rintro ⟨back, front, equal, outside⟩
    refine ⟨front.reverse, back.reverse, ?_, ?_⟩
    · simpa using congrArg List.reverse equal
    · intro d mem
      simpa using outside d (List.mem_reverse.mp mem)
  · rintro ⟨front, back, rfl, outside⟩
    refine ⟨back.reverse, front.reverse, by simp, ?_⟩
    intro d mem
    simpa using outside d (List.mem_reverse.mp mem)

theorem scans_of_titleAfter? (found : titleAfter? rest = some title) : Scans rest title := by
  rcases Text.exists_blanks_append_trimLeft rest with ⟨blanks, blank, split⟩
  rw [titleAfter?] at found
  split at found
  · rename_i c behind trimmed
    have visible := Text.visible_of_trimLeft_eq_cons trimmed
    have notNewline := ne_newline_of_isBlank_eq_false visible
    simp only [ne_eq, notNewline, not_false_eq_true, decide_true, List.takeWhile_cons_of_pos,
      Option.some.injEq] at found
    have stops : behind.dropWhile (· ≠ '\n') = [] ∨
        ∃ below, behind.dropWhile (· ≠ '\n') = '\n' :: below := by
      cases left : behind.dropWhile (· ≠ '\n') with
      | nil => exact Or.inl rfl
      | cons d below =>
          have stopped := List.head?_dropWhile_not (· ≠ '\n') behind
          rw [left] at stopped
          have newline : d = '\n' := by simpa using stopped
          exact Or.inr ⟨below, by rw [newline]⟩
    have inLine : '\n' ∉ behind.takeWhile (· ≠ '\n') := by
      intro mem
      simpa using List.all_eq_true.mp List.all_takeWhile _ mem
    have scans := Scans.line blank visible inLine stops
    rw [List.cons_append, List.takeWhile_append_dropWhile, ← trimmed, ← split] at scans
    rw [← found]
    exact scans
  · rename_i trimmed
    rw [trimmed, List.append_nil] at split
    simp only [Option.map_eq_some_iff, getLast?_filter_eq_some_iff] at found
    rcases found with ⟨c, ⟨notNewline, front, back, equal, newlines⟩, rfl⟩
    rw [split] at equal
    rw [split, equal]
    rw [equal, Text.allBlank_iff] at blank
    apply Scans.blank
    · exact Text.allBlank_iff.mpr fun d mem => blank d (by simp [mem])
    · exact blank c (by simp)
    · simpa using notNewline
    · intro d mem
      simpa using newlines d mem

theorem Scans.titleAfter?_eq (scans : Scans rest title) : titleAfter? rest = some title := by
  cases scans with
  | @line blanks c line after blank visible inLine stops =>
      have notNewline := ne_newline_of_isBlank_eq_false visible
      have taken : (line ++ after).takeWhile (· ≠ '\n') = line := by
        apply Text.takeWhile_append_stop
        · intro d mem
          simpa using ne_of_mem_of_not_mem mem inLine
        · rcases stops with rfl | ⟨below, rfl⟩ <;> simp
      rw [titleAfter?, Text.trimLeft_append_of_allBlank blank, List.cons_append,
        Text.trimLeft_cons_of_visible visible]
      simp only [List.takeWhile_cons, ne_eq, notNewline, not_false_eq_true, decide_true, if_true]
      exact congrArg (fun line => some (c :: line)) taken
  | @blank blanks c newlines blank last notNewline onlyNewlines =>
      have allBlank : Text.allBlank (blanks ++ c :: newlines) = true := by
        rw [Text.allBlank_iff] at blank ⊢
        intro d mem
        simp only [List.mem_append, List.mem_cons] at mem
        rcases mem with mem | rfl | mem
        · exact blank d mem
        · exact last
        · rw [onlyNewlines d mem]
          exact isBlank_newline
      have trimmed : Text.trimLeft (blanks ++ c :: newlines) = [] := by
        simpa [Text.trimLeft] using Text.trimLeft_append_of_allBlank allBlank []
      have lastLetter : ((blanks ++ c :: newlines).filter (· ≠ '\n')).getLast? = some c := by
        apply getLast?_filter_eq_some_iff.mpr
        refine ⟨by simpa using notNewline, blanks, newlines, rfl, ?_⟩
        intro d mem
        simpa using onlyNewlines d mem
      rw [titleAfter?, trimmed]
      simp only [lastLetter, Option.map_some]

theorem titleAfter?_eq_some_iff : titleAfter? rest = some title ↔ Scans rest title :=
  ⟨scans_of_titleAfter?, Scans.titleAfter?_eq⟩

/-- A scan fails only behind a number sign with nothing but newlines after it. -/
theorem titleAfter?_eq_none_iff : titleAfter? rest = none ↔ ∀ c ∈ rest, c = '\n' := by
  rw [titleAfter?]
  split
  · rename_i c behind trimmed
    have mem : c ∈ rest := by
      apply List.dropWhile_sublist isBlank |>.mem
      rw [← Text.trimLeft, trimmed]
      exact List.mem_cons_self
    have visible := Text.visible_of_trimLeft_eq_cons trimmed
    simp only [reduceCtorEq, false_iff]
    intro newlines
    exact ne_newline_of_isBlank_eq_false visible (newlines c mem)
  · simp

theorem title?_of_sign_notMem (notMem : '#' ∉ text) : title? text = none := by
  have whole : (text ++ []).dropWhile (· ≠ '#') = [] := by
    apply Text.dropWhile_append_stop
    · intro c mem
      simpa using ne_of_mem_of_not_mem mem notMem
    · rfl
  rw [List.append_nil] at whole
  rw [title?, whole]

theorem FollowsSign.title?_eq (follows : FollowsSign rest text) :
    title? text = titleAfter? rest := by
  rcases follows with ⟨before, notMem, rfl⟩
  have behind : (before ++ '#' :: rest).dropWhile (· ≠ '#') = '#' :: rest := by
    apply Text.dropWhile_append_stop
    · intro c mem
      simpa using ne_of_mem_of_not_mem mem notMem
    · simp
  rw [title?, behind]

theorem exists_followsSign (mem : '#' ∈ text) : ∃ rest, FollowsSign rest text := by
  rcases List.eq_append_cons_of_mem mem with ⟨before, rest, equal, notMem⟩
  exact ⟨rest, before, notMem, equal⟩

/-- A start of a text without a character of the text stops in front of it. -/
theorem length_le_of_prefix_of_notMem {front behind : Text}
    (begins : other <+: front ++ c :: behind)
    (notMem : c ∉ other) : other.length ≤ front.length := by
  by_contra longer
  apply notMem
  have whole : front ++ [c] <+: front ++ c :: behind := ⟨behind, by simp⟩
  have within : front ++ [c] <+: other := by
    apply List.prefix_of_prefix_length_le whole begins
    simp only [List.length_append, List.length_singleton]
    omega
  apply within.subset
  simp

/-- What is scanned is read with the most blanks, and then with the longest run. -/
theorem Scans.exists_reads (scans : Scans rest title) :
    ∃ blanks, Reads blanks title rest ∧
      (∀ otherBlanks otherTitle, Reads otherBlanks otherTitle rest →
        otherBlanks.length ≤ blanks.length) ∧
      ∀ otherTitle, Reads blanks otherTitle rest → otherTitle.length ≤ title.length := by
  have nonempty := scans.ne_nil_and_newline_notMem
  cases scans with
  | @line blanks c line after blank visible inLine stops =>
      refine ⟨blanks, ⟨blank, nonempty.1, nonempty.2, ⟨after, by simp⟩⟩, ?_, ?_⟩
      · intro otherBlanks otherTitle reads
        have begins : otherBlanks <+: blanks ++ c :: (line ++ after) :=
          (List.prefix_append _ _).trans reads.begins
        apply length_le_of_prefix_of_notMem begins
        intro mem
        simp [Text.allBlank_iff.mp reads.blank c mem] at visible
      · intro otherTitle reads
        have begins := (List.prefix_append_right_inj blanks).mp reads.begins
        rcases stops with rfl | ⟨below, rfl⟩
        · simpa using begins.length_le
        · exact length_le_of_prefix_of_notMem begins reads.inLine
  | @blank blanks c newlines blank last notNewline onlyNewlines =>
      refine ⟨blanks, ⟨blank, nonempty.1, nonempty.2, ⟨newlines, by simp⟩⟩, ?_, ?_⟩
      · intro otherBlanks otherTitle reads
        by_contra longer
        -- With more blanks nothing but newlines would be left for the title.
        have begins : otherBlanks <+: blanks ++ c :: newlines :=
          (List.prefix_append _ _).trans reads.begins
        have within : blanks ++ [c] <+: otherBlanks := by
          apply List.prefix_of_prefix_length_le ⟨newlines, by simp⟩ begins
          simp only [List.length_append, List.length_singleton]
          omega
        rcases within with ⟨more, rfl⟩
        have left : more ++ otherTitle <+: newlines := by
          simpa [List.prefix_append_right_inj] using reads.begins
        rcases List.exists_mem_of_ne_nil _ reads.nonempty with ⟨d, mem⟩
        have newline := onlyNewlines d (left.subset (by simp [mem]))
        exact reads.inLine (newline ▸ mem)
      · intro otherTitle reads
        have begins := (List.prefix_append_right_inj blanks).mp reads.begins
        cases newlines with
        | nil => simpa using begins.length_le
        | cons d newlines =>
            have newline := onlyNewlines d List.mem_cons_self
            have start : otherTitle <+: [c] ++ '\n' :: newlines := by
              rwa [newline] at begins
            exact length_le_of_prefix_of_notMem start reads.inLine

theorem Reads.titleAfter?_ne_none (reads : Reads blanks title rest) : titleAfter? rest ≠ none := by
  intro none
  rcases List.exists_mem_of_ne_nil _ reads.nonempty with ⟨c, mem⟩
  have newline := titleAfter?_eq_none_iff.mp none c (reads.begins.subset (by simp [mem]))
  exact reads.inLine (newline ▸ mem)

/-- A number sign before which there is none is the first at which a title is read, if any is. -/
theorem ReadsAt.exists_more {rest : Text} (reads : ReadsAt other blanks title text)
    (notMem : '#' ∉ before) (equal : text = before ++ '#' :: rest) :
    ∃ more, other = before ++ more := by
  rcases reads with ⟨otherRest, otherEqual, _⟩
  rcases Text.exists_of_append_cons_eq_append notMem (otherEqual.symm.trans equal) with
    ⟨more, split, _⟩
  exact ⟨more, split⟩

theorem readsAt_append_iff : ReadsAt before blanks title (before ++ '#' :: rest) ↔
    Reads blanks title rest := by
  constructor
  · rintro ⟨otherRest, equal, reads⟩
    simp only [List.append_cancel_left_eq, List.cons.injEq, true_and] at equal
    rwa [equal]
  · intro reads
    exact ⟨rest, rfl, reads⟩

/-- What the scan finds behind the first number sign is what is read by preference. -/
theorem FollowsSign.exists_isPreferred (follows : FollowsSign rest text)
    (scans : Scans rest title) : ∃ before blanks, IsPreferred before blanks title text := by
  rcases follows with ⟨before, notMem, rfl⟩
  rcases scans.exists_reads with ⟨blanks, reads, most, longest⟩
  refine ⟨before, blanks, readsAt_append_iff.mpr reads, ?_, ?_, ?_⟩
  · intro other otherBlanks otherTitle otherReads
    rcases otherReads.exists_more notMem rfl with ⟨more, rfl⟩
    simp
  · intro otherBlanks otherTitle otherReads
    exact most otherBlanks otherTitle (readsAt_append_iff.mp otherReads)
  · intro otherTitle otherReads
    exact longest otherTitle (readsAt_append_iff.mp otherReads)

/-- One title is read by preference. -/
theorem IsPreferred.unique {otherTitle : Text} (preferred : IsPreferred before blanks title text)
    (too : IsPreferred other otherBlanks otherTitle text) : title = otherTitle := by
  rcases preferred.reads with ⟨rest, rfl, reads⟩
  rcases too.reads with ⟨otherRest, equal, _⟩
  have sameLength := Nat.le_antisymm (preferred.first _ _ _ too.reads)
    (too.first _ _ _ preferred.reads)
  have same := List.append_inj_left equal sameLength
  subst same
  have otherReads := readsAt_append_iff.mp too.reads
  have blanksLength := Nat.le_antisymm (too.most_blanks _ _ preferred.reads)
    (preferred.most_blanks _ _ too.reads)
  have sameBlanks : blanks = otherBlanks := by
    have begins := (List.prefix_append _ _).trans reads.begins
    have otherBegins := (List.prefix_append _ _).trans otherReads.begins
    have shorter := List.prefix_of_prefix_length_le begins otherBegins (Nat.le_of_eq blanksLength)
    exact shorter.eq_of_length
      blanksLength
  subst sameBlanks
  have titleLength := Nat.le_antisymm (too.longest _ preferred.reads)
    (preferred.longest _ too.reads)
  have within := List.prefix_of_prefix_length_le reads.begins otherReads.begins
    (by simp [titleLength])
  exact ((List.prefix_append_right_inj blanks).mp within).eq_of_length titleLength

/-- The title of a text is what the scan finds behind the first number sign. -/
theorem title?_eq_some_iff :
    title? text = some title ↔ ∃ rest, FollowsSign rest text ∧ Scans rest title := by
  constructor
  · intro found
    have mem : '#' ∈ text := by
      by_contra notMem
      simp [title?_of_sign_notMem notMem] at found
    rcases exists_followsSign mem with ⟨rest, follows⟩
    rw [follows.title?_eq, titleAfter?_eq_some_iff] at found
    exact ⟨rest, follows, found⟩
  · rintro ⟨rest, follows, scans⟩
    rwa [follows.title?_eq, titleAfter?_eq_some_iff]

theorem title?_eq_none_iff :
    title? text = none ↔ '#' ∉ text ∨ ∃ rest, FollowsSign rest text ∧ ∀ c ∈ rest, c = '\n' := by
  constructor
  · intro none
    by_cases mem : '#' ∈ text
    · rcases exists_followsSign mem with ⟨rest, follows⟩
      rw [follows.title?_eq] at none
      exact Or.inr ⟨rest, follows, titleAfter?_eq_none_iff.mp none⟩
    · exact Or.inl mem
  · rintro (notMem | ⟨rest, follows, newlines⟩)
    · exact title?_of_sign_notMem notMem
    · rw [follows.title?_eq]
      exact titleAfter?_eq_none_iff.mpr newlines

theorem exists_isPreferred_of_title? (found : title? text = some title) :
    ∃ before blanks, IsPreferred before blanks title text := by
  rcases title?_eq_some_iff.mp found with ⟨rest, follows, scans⟩
  exact follows.exists_isPreferred scans

/-- Where a title can be read there is a title. -/
theorem ReadsAt.title?_ne_none (reads : ReadsAt before blanks title text) : title? text ≠ none := by
  intro none
  rcases title?_eq_none_iff.mp none with notMem | ⟨rest, ⟨first, notMem, rfl⟩, newlines⟩
  · rcases reads with ⟨rest, rfl, _⟩
    simp at notMem
  · rcases reads.exists_more notMem rfl with ⟨more, rfl⟩
    rcases reads with ⟨otherRest, equal, otherReads⟩
    cases more with
    | nil =>
        simp only [List.append_nil, List.append_cancel_left_eq, List.cons.injEq, true_and] at equal
        rw [equal] at newlines
        exact otherReads.titleAfter?_ne_none (titleAfter?_eq_none_iff.mpr newlines)
    | cons sign more =>
        simp only [List.append_assoc, List.cons_append, List.append_cancel_left_eq,
          List.cons.injEq] at equal
        -- A later number sign is among the newlines.
        have newline := newlines '#' (by simp [equal.2])
        simp at newline

theorem IsPreferred.title?_eq (preferred : IsPreferred before blanks title text) :
    title? text = some title := by
  rcases Option.ne_none_iff_exists'.mp preferred.reads.title?_ne_none with ⟨other, found⟩
  rcases exists_isPreferred_of_title? found with ⟨_, _, otherPreferred⟩
  rw [found, otherPreferred.unique preferred]

/-- The title of a text is what is read by preference, and the scan behind the first number sign
finds it. There is none exactly if there is no number sign, or nothing but newlines behind the first
one. -/
theorem title?_iff_scans (text : Text) :
    (title? text = none ↔ '#' ∉ text ∨ ∃ rest, FollowsSign rest text ∧ ∀ c ∈ rest, c = '\n') ∧
      (title? text = none ↔ ¬∃ before blanks title, ReadsAt before blanks title text) ∧
      ∀ title, (title? text = some title ↔ ∃ rest, FollowsSign rest text ∧ Scans rest title) ∧
        (title? text = some title ↔ ∃ before blanks, IsPreferred before blanks title text) ∧
        (title? text = some title → title ≠ [] ∧ '\n' ∉ title) := by
  refine ⟨title?_eq_none_iff, ?_, fun title => ⟨title?_eq_some_iff, ?_, ?_⟩⟩
  · constructor
    · rintro none ⟨before, blanks, title, reads⟩
      exact reads.title?_ne_none none
    · intro unread
      by_contra titled
      rcases Option.ne_none_iff_exists'.mp titled with ⟨title, found⟩
      rcases exists_isPreferred_of_title? found with ⟨before, blanks, preferred⟩
      exact unread ⟨before, blanks, title, preferred.reads⟩
  · constructor
    · exact exists_isPreferred_of_title?
    · rintro ⟨before, blanks, preferred⟩
      exact preferred.title?_eq
  · intro found
    rcases title?_eq_some_iff.mp found with ⟨rest, _, scans⟩
    exact scans.ne_nil_and_newline_notMem

end ScriptSite.Source
