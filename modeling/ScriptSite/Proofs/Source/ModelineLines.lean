import ScriptSite.Proofs.Source.Modeline
import ScriptSite.Proofs.Text.Lines

/-!
# Modelines line by line

A modeline takes up whole lines: any number of blank lines, and behind them either one line with the
slashes and the word, or a line with the slashes alone, blank lines, and a line that begins with the
word (`IsModelineLines`). Taking modelines out of a text is therefore the same as taking them out of
its lines, from the second line on. `stripLines` does that, and `stripModelines_append_continued`
says that it is the same.
-/

namespace ScriptSite

namespace Text

variable {c : Char} {first line start text : Text} {rest : List Text}

/-- The text that goes on with these lines, each behind a newline. -/
def continued (lines : List Text) : Text :=
  lines.flatMap fun line => '\n' :: line

@[simp]
theorem continued_nil : continued [] = [] := rfl

theorem continued_cons (line : Text) (rest : List Text) :
    continued (line :: rest) = '\n' :: (line ++ continued rest) := by
  simp [continued]

/-- Every text is a first line that goes on with further lines. -/
theorem exists_eq_append_continued (text : Text) :
    ∃ first rest, '\n' ∉ first ∧ (∀ line ∈ rest, '\n' ∉ line) ∧ text = first ++ continued rest := by
  induction text with
  | nil => exact ⟨[], [], by simp, by simp, rfl⟩
  | cons c text ih =>
      rcases ih with ⟨first, rest, firstWhole, restWhole, rfl⟩
      by_cases newline : c = '\n'
      · refine ⟨[], first :: rest, by simp, ?_, by rw [newline, continued_cons]; rfl⟩
        simpa [firstWhole] using restWhole
      · refine ⟨c :: first, rest, ?_, restWhole, rfl⟩
        simp [Ne.symm newline, firstWhole]

theorem lines_append_continued (firstWhole : '\n' ∉ first)
    (restWhole : ∀ line ∈ rest, '\n' ∉ line) :
    lines (first ++ continued rest) = first :: rest := by
  have single : ∀ {line : Text}, '\n' ∉ line → lines line = [line] := by
    intro line whole
    rw [lines, splitWhere_eq_splitOnP]
    refine List.splitOnP_eq_singleton fun c mem => ?_
    have different : c ≠ '\n' := by
      rintro rfl
      exact whole mem
    simpa using different
  induction rest generalizing first with
  | nil => simpa using single firstWhole
  | cons line rest ih =>
      rw [continued_cons, lines_append_newline, single firstWhole,
        ih (restWhole line (by simp)) fun other mem => restWhole other (by simp [mem])]
      rfl

/-- What begins with a word that has no newline shows so on the first line. -/
theorem dropPrefix?_append_continued (whole : '\n' ∉ start) (line : Text) (rest : List Text) :
    dropPrefix? start (line ++ continued rest) =
      (dropPrefix? start line).map (· ++ continued rest) := by
  induction start generalizing line with
  | nil => simp [dropPrefix?]
  | cons s start ih =>
      simp only [List.mem_cons, not_or] at whole
      cases line with
      | nil =>
          cases rest with
          | nil => simp [dropPrefix?]
          | cons next rest => simp [dropPrefix?, continued_cons, Ne.symm whole.1]
      | cons c line =>
          by_cases same : s = c
          · simp [dropPrefix?, same, ih whole.2]
          · simp [dropPrefix?, same]

theorem trimLeft_append_of_not_allBlank (visible : allBlank line = false) (rest : Text) :
    trimLeft (line ++ rest) = trimLeft line ++ rest := by
  rcases exists_blanks_append_visible visible with ⟨blanks, c, more, blank, cVisible, rfl⟩
  simp [trimLeft_append_of_allBlank blank, trimLeft_cons_of_visible cVisible]

theorem dropWhile_newline_append_continued (whole : '\n' ∉ line) (rest : List Text) :
    (line ++ continued rest).dropWhile (· ≠ '\n') = continued rest := by
  have all : ∀ c ∈ line, decide (c ≠ '\n') = true := by
    rintro c mem
    have different : c ≠ '\n' := by
      rintro rfl
      exact whole mem
    simpa using different
  rw [List.dropWhile_append_of_pos all]
  cases rest with
  | nil => rfl
  | cons next rest => simp [continued_cons]

end Text

namespace Source

variable {line comment behind start : Text} {lines after blanks between group : List Text}

/-- What stands behind blanks and `start` on the first line that is not blank, if that line begins
with them, and the lines below it. -/
def below? (start : Text) : List Text → Option (Text × List Text)
  | [] => none
  | line :: rest =>
      if Text.allBlank line then below? start rest
      else (Text.dropPrefix? start (Text.trimLeft line)).map fun behind => (behind, rest)

/-- The lines below the modeline that some lines begin with. -/
def linesAfter? (lines : List Text) : Option (List Text) :=
  (below? ['/', '/'] lines).bind fun (comment, rest) =>
    (below? ['v', 'i', 'm', ':'] (comment :: rest)).map Prod.snd

/-- On a line with a visible character, what begins there has to show there. -/
theorem below?_visible_cons {left rest : Text} {c : Char} (leftBlank : Text.allBlank left = true)
    (visible : isBlank c = false) (lines : List Text) :
    below? start ((left ++ c :: rest) :: lines) =
      (Text.dropPrefix? start (c :: rest)).map fun behind => (behind, lines) := by
  have notBlank : Text.allBlank (left ++ c :: rest) = false :=
    Text.allBlank_eq_false_iff.mpr ⟨c, by simp, visible⟩
  rw [below?, if_neg (by simp [notBlank]), Text.trimLeft_append_of_allBlank leftBlank,
    Text.trimLeft_cons_of_visible visible]

theorem length_lt_of_below? (found : below? start lines = some (behind, after)) :
    after.length < lines.length := by
  induction lines with
  | nil => simp [below?] at found
  | cons line rest ih =>
      rw [below?] at found
      split at found
      · exact Nat.lt_succ_of_lt (ih found)
      · rcases Option.map_eq_some_iff.mp found with ⟨_, _, equal⟩
        simp only [Prod.mk.injEq] at equal
        simp [← equal.2]

theorem length_lt_of_linesAfter? (found : linesAfter? lines = some after) :
    after.length < lines.length := by
  rcases Option.bind_eq_some_iff.mp found with ⟨⟨comment, rest⟩, slashes, found⟩
  rcases Option.map_eq_some_iff.mp found with ⟨⟨options, last⟩, word, rfl⟩
  have first := length_lt_of_below? slashes
  have second := length_lt_of_below? word
  rw [List.length_cons] at second
  show last.length < lines.length
  omega

/-- Lines without the modelines among them. -/
def stripLines : List Text → List Text
  | [] => []
  | line :: rest =>
      match _found : linesAfter? (line :: rest) with
      | some after => stripLines after
      | none => line :: stripLines rest
termination_by lines => lines.length
decreasing_by
  · exact length_lt_of_linesAfter? ‹_›
  · simp

@[simp]
theorem stripLines_nil : stripLines [] = [] := by
  simp [stripLines]

theorem stripLines_of_some (found : linesAfter? lines = some after) :
    stripLines lines = stripLines after := by
  cases lines with
  | nil => simp [linesAfter?, below?] at found
  | cons line rest =>
      rw [stripLines]
      split
      · rename_i other otherFound
        rw [found, Option.some.injEq] at otherFound
        rw [otherFound]
      · rename_i absent
        simp [found] at absent

theorem stripLines_cons_of_none (absent : linesAfter? (line :: lines) = none) :
    stripLines (line :: lines) = line :: stripLines lines := by
  rw [stripLines]
  split
  · rename_i found
    simp [absent] at found
  · rfl

/-- The search for a word behind blanks in a text is the search in its lines. -/
theorem dropPrefix?_trimLeft_eq (visible : start.head?.any (fun c => !isBlank c) = true)
    (whole : '\n' ∉ start) (line : Text) (rest : List Text) :
    Text.dropPrefix? start (Text.trimLeft (line ++ Text.continued rest)) =
      (below? start (line :: rest)).map fun (behind, after) => behind ++ Text.continued after := by
  induction rest generalizing line with
  | nil =>
      rw [below?]
      split
      · rename_i blank
        have none : Text.trimLeft line = [] := by
          simpa [Text.trimLeft] using Text.allBlank_iff.mp blank
        cases start with
        | nil => simp at visible
        | cons s start => simp [none, Text.dropPrefix?, below?]
      · simp [Option.map_map, Function.comp_def]
  | cons next rest ih =>
      rw [below?]
      split
      · rename_i blank
        rw [Text.trimLeft_append_of_allBlank blank, Text.continued_cons, ← ih next]
        rfl
      · rename_i notBlank
        rw [Text.trimLeft_append_of_not_allBlank (by simpa using notBlank),
          Text.dropPrefix?_append_continued whole, Option.map_map]
        rfl

theorem newline_notMem_of_below? (whole : ∀ line ∈ lines, '\n' ∉ line)
    (found : below? start lines = some (behind, after)) :
    '\n' ∉ behind ∧ ∀ line ∈ after, '\n' ∉ line := by
  induction lines with
  | nil => simp [below?] at found
  | cons line rest ih =>
      have restWhole : ∀ other ∈ rest, '\n' ∉ other := fun other mem => whole other (by simp [mem])
      rw [below?] at found
      split at found
      · exact ih restWhole found
      · rcases Option.map_eq_some_iff.mp found with ⟨_, drops, equal⟩
        simp only [Prod.mk.injEq] at equal
        rcases equal with ⟨rfl, rfl⟩
        refine ⟨fun mem => whole line (by simp) ?_, restWhole⟩
        rcases Text.exists_blanks_append_trimLeft line with ⟨blanks, _, equal⟩
        rw [equal, Text.dropPrefix?_eq_some_iff.mp drops]
        simp [mem]

/-- A text behind a newline begins with a modeline exactly if its lines do. -/
theorem afterModeline?_append_continued (whole : ∀ other ∈ line :: lines, '\n' ∉ other) :
    afterModeline? (line ++ Text.continued lines) =
      (linesAfter? (line :: lines)).map Text.continued := by
  rw [afterModeline?, linesAfter?, dropPrefix?_trimLeft_eq rfl (by decide)]
  cases slashes : below? ['/', '/'] (line :: lines) with
  | none => rfl
  | some found =>
      rcases found with ⟨comment, rest⟩
      simp only [Option.map_some, Option.bind_some]
      rw [dropPrefix?_trimLeft_eq rfl (by decide)]
      cases word : below? ['v', 'i', 'm', ':'] (comment :: rest) with
      | none => rfl
      | some found =>
          rcases found with ⟨options, after⟩
          have commentWhole := newline_notMem_of_below? whole slashes
          have optionsWhole := newline_notMem_of_below?
            (List.forall_mem_cons.mpr commentWhole) word
          simp only [Option.map_some]
          rw [Text.dropWhile_newline_append_continued optionsWhole.1]

theorem stripModelines_append_of_newline_notMem (whole : '\n' ∉ line) (rest : Text) :
    stripModelines (line ++ rest) = line ++ stripModelines rest := by
  induction line with
  | nil => rfl
  | cons c line ih =>
      simp only [List.mem_cons, not_or] at whole
      rw [List.cons_append, stripModelines_cons_of_ne (Ne.symm whole.1), ih whole.2]
      rfl

theorem whole_of_linesAfter? (whole : ∀ line ∈ lines, '\n' ∉ line)
    (found : linesAfter? lines = some after) : ∀ line ∈ after, '\n' ∉ line := by
  rcases Option.bind_eq_some_iff.mp found with ⟨⟨comment, rest⟩, slashes, found⟩
  rcases Option.map_eq_some_iff.mp found with ⟨⟨options, last⟩, word, rfl⟩
  have commentWhole := newline_notMem_of_below? whole slashes
  exact (newline_notMem_of_below? (List.forall_mem_cons.mpr commentWhole) word).2

theorem stripModelines_continued (whole : ∀ line ∈ lines, '\n' ∉ line) :
    stripModelines (Text.continued lines) = Text.continued (stripLines lines) := by
  fun_induction stripLines lines with
  | case1 => simp
  | case2 line rest after found ih =>
      have textFound := afterModeline?_append_continued whole
      rw [found] at textFound
      rw [Text.continued_cons, stripModelines_newline_of_some textFound]
      exact ih (whole_of_linesAfter? whole found)
  | case3 line rest absent ih =>
      have textAbsent := afterModeline?_append_continued whole
      rw [absent] at textAbsent
      rw [List.forall_mem_cons] at whole
      rw [Text.continued_cons, stripModelines_newline_of_none textAbsent,
        stripModelines_append_of_newline_notMem whole.1, ih whole.2, Text.continued_cons]

/-- Taking modelines out of a text keeps its first line and takes them out of the others. -/
theorem stripModelines_append_continued (firstWhole : '\n' ∉ line)
    (restWhole : ∀ other ∈ lines, '\n' ∉ other) :
    stripModelines (line ++ Text.continued lines) =
      line ++ Text.continued (stripLines lines) := by
  rw [stripModelines_append_of_newline_notMem firstWhole, stripModelines_continued restWhole]

/-- Whether a line holds a modeline and nothing else. -/
def IsModelineLine (line : Text) : Prop :=
  ∃ head options, IsModelineHead head ∧ line = head ++ options

/-- Whether a line holds two slashes and blanks. -/
def IsBareComment (line : Text) : Prop :=
  ∃ left right, Text.allBlank left = true ∧ Text.allBlank right = true ∧
    line = left ++ '/' :: '/' :: right

/-- Whether a line begins with the word of a modeline, without its slashes. -/
def IsWordLine (line : Text) : Prop :=
  ∃ left options, Text.allBlank left = true ∧ line = left ++ 'v' :: 'i' :: 'm' :: ':' :: options

/-- Whether some lines are all blank. -/
def AllBlank (lines : List Text) : Prop :=
  ∀ line ∈ lines, Text.allBlank line = true

/-- The lines that a modeline takes up. -/
inductive IsModelineLines : List Text → Prop
  | whole {blanks : List Text} {line : Text} (blank : AllBlank blanks)
      (isModeline : IsModelineLine line) : IsModelineLines (blanks ++ [line])
  /-- The slashes and the word stand on lines of their own. -/
  | broken {blanks between : List Text} {comment line : Text} (blank : AllBlank blanks)
      (isComment : IsBareComment comment) (betweenBlank : AllBlank between)
      (isWord : IsWordLine line) : IsModelineLines (blanks ++ comment :: (between ++ [line]))

theorem AllBlank.nil : AllBlank [] := by
  simp [AllBlank]

theorem IsModelineLines.singleton (isModeline : IsModelineLine line) : IsModelineLines [line] :=
  .whole .nil isModeline

theorem IsModelineLines.pair {between : List Text} {comment word : Text}
    (isComment : IsBareComment comment) (blank : AllBlank between) (isWord : IsWordLine word) :
    IsModelineLines (comment :: (between ++ [word])) :=
  .broken .nil isComment blank isWord

theorem below?_eq_some_iff (visible : start.head?.any (fun c => !isBlank c) = true) :
    below? start lines = some (behind, after) ↔
      ∃ blanks left, AllBlank blanks ∧ Text.allBlank left = true ∧
        lines = blanks ++ (left ++ start ++ behind) :: after := by
  rcases start with _ | ⟨s, start⟩
  · simp at visible
  have sVisible : isBlank s = false := by simpa using visible
  induction lines with
  | nil => simp [below?]
  | cons line rest ih =>
      rw [below?]
      split
      · rename_i lineBlank
        refine ih.trans ?_
        constructor
        · rintro ⟨blanks, left, blank, leftBlank, rfl⟩
          exact ⟨line :: blanks, left, List.forall_mem_cons.mpr ⟨lineBlank, blank⟩, leftBlank, rfl⟩
        · rintro ⟨_ | ⟨first, blanks⟩, left, blank, leftBlank, equal⟩
          · simp only [List.nil_append, List.cons.injEq] at equal
            rw [equal.1, Text.allBlank_iff] at lineBlank
            have impossible := lineBlank s (by simp)
            simp [sVisible] at impossible
          · simp only [List.cons_append, List.cons.injEq] at equal
            exact ⟨blanks, left, (List.forall_mem_cons.mp blank).2, leftBlank, equal.2⟩
      · rename_i notBlank
        constructor
        · intro found
          rcases Option.map_eq_some_iff.mp found with ⟨_, drops, equal⟩
          simp only [Prod.mk.injEq] at equal
          rcases equal with ⟨rfl, rfl⟩
          rcases Text.exists_blanks_append_trimLeft line with ⟨left, leftBlank, equal⟩
          refine ⟨[], left, by simp [AllBlank], leftBlank, ?_⟩
          rw [List.append_assoc, ← Text.dropPrefix?_eq_some_iff.mp drops, ← equal]
          rfl
        · rintro ⟨_ | ⟨first, blanks⟩, left, blank, leftBlank, equal⟩
          · simp only [List.nil_append, List.cons.injEq] at equal
            rcases equal with ⟨rfl, rfl⟩
            have drops : Text.dropPrefix? (s :: start) (s :: start ++ behind) = some behind :=
              Text.dropPrefix?_eq_some_iff.mpr rfl
            have found : below? (s :: start) ((left ++ s :: (start ++ behind)) :: rest) =
                (Text.dropPrefix? (s :: start) (s :: (start ++ behind))).map fun tail =>
                  (tail, rest) := below?_visible_cons leftBlank sVisible rest
            rw [← List.cons_append, drops, ← List.append_assoc] at found
            rwa [below?, if_neg notBlank] at found
          · simp only [List.cons_append, List.cons.injEq] at equal
            exact absurd (equal.1 ▸ (List.forall_mem_cons.mp blank).1) notBlank

/-- Lines begin with a modeline exactly if the search for one succeeds. -/
theorem linesAfter?_eq_some_iff :
    linesAfter? lines = some after ↔ ∃ group, IsModelineLines group ∧ lines = group ++ after := by
  constructor
  · intro found
    rcases Option.bind_eq_some_iff.mp found with ⟨⟨comment, rest⟩, slashes, found⟩
    rcases Option.map_eq_some_iff.mp found with ⟨⟨options, last⟩, word, rfl⟩
    rcases (below?_eq_some_iff rfl).mp slashes with ⟨blanks, left, blank, leftBlank, rfl⟩
    rcases (below?_eq_some_iff rfl).mp word with ⟨between, right, betweenBlank, rightBlank, equal⟩
    cases between with
    | nil =>
        simp only [List.nil_append, List.cons.injEq] at equal
        rcases equal with ⟨rfl, rfl⟩
        refine ⟨_, .whole blank ⟨_, options, ⟨left, right, leftBlank, rightBlank, rfl⟩, rfl⟩, ?_⟩
        simp
    | cons first between =>
        simp only [List.cons_append, List.cons.injEq] at equal
        rcases equal with ⟨rfl, rfl⟩
        rcases List.forall_mem_cons.mp betweenBlank with ⟨commentBlank, betweenBlank⟩
        refine ⟨_, .broken blank ⟨left, comment, leftBlank, commentBlank, rfl⟩ betweenBlank
          ⟨right, options, rightBlank, rfl⟩, ?_⟩
        simp
  · rintro ⟨group, isGroup, rfl⟩
    cases isGroup with
    | @whole blanks line blank isModeline =>
        rcases isModeline with ⟨_, options, ⟨left, right, leftBlank, rightBlank, rfl⟩, rfl⟩
        have slashes : below? ['/', '/'] (blanks ++ [left ++ '/' :: '/' ::
            (right ++ ['v', 'i', 'm', ':']) ++ options] ++ after) =
              some (right ++ 'v' :: 'i' :: 'm' :: ':' :: options, after) :=
          (below?_eq_some_iff rfl).mpr ⟨blanks, left, blank, leftBlank, by simp⟩
        have word : below? ['v', 'i', 'm', ':']
            ((right ++ 'v' :: 'i' :: 'm' :: ':' :: options) :: after) = some (options, after) :=
          (below?_eq_some_iff rfl).mpr ⟨[], right, by simp [AllBlank], rightBlank, by simp⟩
        simp only [linesAfter?, slashes, Option.bind_some, word, Option.map_some]
    | @broken blanks between comment line blank isComment betweenBlank isWord =>
        rcases isComment with ⟨left, right, leftBlank, rightBlank, rfl⟩
        rcases isWord with ⟨wordLeft, options, wordBlank, rfl⟩
        have slashes : below? ['/', '/'] (blanks ++ (left ++ '/' :: '/' :: right) ::
            (between ++ [wordLeft ++ 'v' :: 'i' :: 'm' :: ':' :: options]) ++ after) =
              some (right, between ++ (wordLeft ++ 'v' :: 'i' :: 'm' :: ':' :: options) :: after) :=
          (below?_eq_some_iff rfl).mpr ⟨blanks, left, blank, leftBlank, by simp⟩
        have word : below? ['v', 'i', 'm', ':'] (right :: (between ++
            (wordLeft ++ 'v' :: 'i' :: 'm' :: ':' :: options) :: after)) = some (options, after) :=
          (below?_eq_some_iff rfl).mpr ⟨right :: between, wordLeft,
            List.forall_mem_cons.mpr ⟨rightBlank, betweenBlank⟩, wordBlank, by simp⟩
        simp only [linesAfter?, slashes, Option.bind_some, word, Option.map_some]

/-- Taking modelines out only takes lines away. -/
theorem stripLines_sublist (lines : List Text) : (stripLines lines).Sublist lines := by
  fun_induction stripLines lines with
  | case1 => exact List.Sublist.slnil
  | case2 line rest after found ih =>
      rcases linesAfter?_eq_some_iff.mp found with ⟨group, _, equal⟩
      rw [equal]
      exact ih.trans (List.sublist_append_right group after)
  | case3 line rest absent ih => exact ih.cons_cons line

end Source

end ScriptSite
