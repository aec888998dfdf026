import ScriptSite.Proofs.Text.Trim
import ScriptSite.Source.Audio

/-!
# Where audio directives stand

`HoldsDirective` says where a directive stands without saying how it is looked for, and the search
fails exactly if there is none (`audioSource?_eq_none_iff`). What it finds is the file that the
leftmost directive names (`audioSource?_eq_some_iff`).

A directive that stands across a blank between two texts either lacks nothing but that blank, which
then ends the name of its file, or has the blank among those behind its word
(`holdsDirective_append_blank_iff`).
-/

namespace ScriptSite.Source

variable {text left right rest name : Text} {c : Char}

/-- Whether a text can be the name of a file in a directive. -/
structure IsFileName (name : Text) : Prop where
  ne_nil : name ≠ []
  visible : ∀ c ∈ name, isBlank c = false

/-- Whether a text begins with a directive for the file with the given name. -/
def BeginsDirective (name text : Text) : Prop :=
  ∃ blanks c rest, blanks ≠ [] ∧ Text.allBlank blanks = true ∧ IsFileName name ∧
    isBlank c = true ∧ text = audioWord ++ (blanks ++ (name ++ c :: rest))

/-- Whether a directive stands anywhere in a text. -/
def HoldsDirective (text : Text) : Prop :=
  ∃ before rest name, text = before ++ rest ∧ BeginsDirective name rest

/-- Whether a directive stands in a text and the leftmost one names the given file. -/
def NamesFirst (name text : Text) : Prop :=
  ∃ before rest, text = before ++ rest ∧ BeginsDirective name rest ∧
    ∀ start later other, text = start ++ later → BeginsDirective other later →
      before.length ≤ start.length

/-- Whether a text ends in a directive that lacks only the blank behind the name of its file. -/
def EndsInDirective (text : Text) : Prop :=
  ∃ before blanks name, blanks ≠ [] ∧ Text.allBlank blanks = true ∧ IsFileName name ∧
    text = before ++ (audioWord ++ (blanks ++ name))

/-- Whether a text ends in the word of a directive, with or without blanks behind it. -/
def EndsInAudioWord (text : Text) : Prop :=
  ∃ before blanks, Text.allBlank blanks = true ∧ text = before ++ (audioWord ++ blanks)

/-- Whether a text begins with what can follow the word of a directive, and so names a file. -/
def BeginsFileName (text : Text) : Prop :=
  ∃ blanks name c rest, Text.allBlank blanks = true ∧ IsFileName name ∧ isBlank c = true ∧
    text = blanks ++ (name ++ c :: rest)

theorem takeWhile_visible_append (isName : IsFileName name) (blank : isBlank c = true)
    (rest : Text) :
    ((name ++ c :: rest).takeWhile fun c => !isBlank c) = name ∧
      ((name ++ c :: rest).dropWhile fun c => !isBlank c) = c :: rest := by
  have visible : ∀ d ∈ name, (!isBlank d) = true := by
    intro d mem
    simp [isName.visible d mem]
  have stops : (c :: rest).head?.any (fun d => !isBlank d) = false := by simp [blank]
  exact ⟨Text.takeWhile_append_stop visible stops, Text.dropWhile_append_stop visible stops⟩

theorem trimLeft_name_append (isName : IsFileName name) (rest : Text) :
    Text.trimLeft (name ++ rest) = name ++ rest := by
  cases name with
  | nil => exact absurd rfl isName.ne_nil
  | cons d name => exact Text.trimLeft_cons_of_visible (isName.visible d (by simp)) _

theorem directive?_eq_some_iff : directive? text = some name ↔ BeginsDirective name text := by
  constructor
  · intro found
    rw [directive?] at found
    split at found
    · simp at found
    · rename_i after opens
      simp only [Option.ite_none_right_eq_some, Option.some.injEq] at found
      rcases found with ⟨⟨gap, nonempty, ended⟩, rfl⟩
      rcases List.exists_cons_of_ne_nil ended with ⟨c, rest, restEq⟩
      have blank : isBlank c = true := by
        have stopped := List.head?_dropWhile_not (fun c => !isBlank c) (Text.trimLeft after)
        simpa [restEq] using stopped
      refine ⟨after.takeWhile isBlank, c, rest, ?_, List.all_takeWhile, ⟨nonempty, ?_⟩, blank, ?_⟩
      · cases after with
        | nil => simp at gap
        | cons first after => simp_all
      · intro d mem
        simpa using List.all_eq_true.mp List.all_takeWhile d mem
      · rw [Text.dropPrefix?_eq_some_iff.mp opens, ← restEq, List.takeWhile_append_dropWhile,
          Text.trimLeft, List.takeWhile_append_dropWhile]
  · rintro ⟨blanks, c, rest, nonempty, blank, isName, ended, rfl⟩
    have opens : Text.dropPrefix? audioWord (audioWord ++ (blanks ++ (name ++ c :: rest))) =
        some (blanks ++ (name ++ c :: rest)) := Text.dropPrefix?_eq_some_iff.mpr rfl
    have gap : (blanks ++ (name ++ c :: rest)).head?.any isBlank = true := by
      cases blanks with
      | nil => exact absurd rfl nonempty
      | cons first blanks => simpa using Text.allBlank_iff.mp blank first (by simp)
    have split := takeWhile_visible_append isName ended rest
    simp only [directive?, opens, Text.trimLeft_append_of_allBlank blank,
      trimLeft_name_append isName, split, gap]
    simp [isName.ne_nil]

theorem HoldsDirective.cons (holds : HoldsDirective text) (c : Char) :
    HoldsDirective (c :: text) := by
  rcases holds with ⟨before, rest, name, rfl, begins⟩
  exact ⟨c :: before, rest, name, rfl, begins⟩

/-- The search for a directive fails exactly if none stands in the text. -/
theorem audioSource?_eq_none_iff : audioSource? text = none ↔ ¬HoldsDirective text := by
  induction text with
  | nil =>
      simp only [audioSource?, true_iff]
      rintro ⟨before, rest, name, equal, blanks, c, tail, _, _, _, _, rfl⟩
      simp [audioWord] at equal
  | cons c text ih =>
      simp only [audioSource?, Option.or_eq_none_iff, ih]
      constructor
      · rintro ⟨absent, absentLater⟩ ⟨before, rest, name, equal, begins⟩
        cases before with
        | nil =>
            rw [List.nil_append] at equal
            rw [equal, directive?_eq_some_iff.mpr begins] at absent
            simp at absent
        | cons d before =>
            simp only [List.cons_append, List.cons.injEq] at equal
            exact absentLater ⟨before, rest, name, equal.2, begins⟩
      · intro absent
        constructor
        · cases found : directive? (c :: text) with
          | none => rfl
          | some name =>
              exact absurd ⟨[], c :: text, name, rfl, directive?_eq_some_iff.mp found⟩ absent
        · intro holds
          exact absent (holds.cons c)

theorem namesFirst_of_beginsDirective (begins : BeginsDirective name text) :
    NamesFirst name text := by
  refine ⟨[], text, rfl, begins, ?_⟩
  intro start later other _ _
  exact Nat.zero_le _

/-- One more character in front makes no difference if no directive begins with it. -/
theorem namesFirst_cons_iff (absent : ∀ other, ¬BeginsDirective other (c :: text)) :
    NamesFirst name (c :: text) ↔ NamesFirst name text := by
  constructor
  · rintro ⟨_ | ⟨first, before⟩, rest, equal, begins, leftmost⟩
    · rw [List.nil_append] at equal
      exact absurd (equal ▸ begins) (absent name)
    · simp only [List.cons_append, List.cons.injEq] at equal
      refine ⟨before, rest, equal.2, begins, ?_⟩
      intro start later other split found
      have further := leftmost (c :: start) later other (by rw [split, List.cons_append]) found
      simpa using further
  · rintro ⟨before, rest, rfl, begins, leftmost⟩
    refine ⟨c :: before, rest, rfl, begins, ?_⟩
    rintro (_ | ⟨first, start⟩) later other split found
    · rw [List.nil_append] at split
      exact absurd (split ▸ found) (absent other)
    · simp only [List.cons_append, List.cons.injEq] at split
      have further := leftmost start later other split.2 found
      simpa using further

/-- The search for a directive finds the file that the leftmost one names. -/
theorem audioSource?_eq_some_iff : audioSource? text = some name ↔ NamesFirst name text := by
  induction text with
  | nil =>
      rw [audioSource?]
      refine iff_of_false (by simp) ?_
      rintro ⟨before, rest, equal, ⟨blanks, c, tail, _, _, _, _, rfl⟩, _⟩
      simp [audioWord] at equal
  | cons c text ih =>
      rw [audioSource?]
      cases found : directive? (c :: text) with
      | none =>
          have absent : ∀ other, ¬BeginsDirective other (c :: text) := by
            intro other begins
            rw [directive?_eq_some_iff.mpr begins] at found
            simp at found
          rw [Option.none_or, ih, namesFirst_cons_iff absent]
      | some first =>
          have begins := directive?_eq_some_iff.mp found
          rw [Option.some_or, Option.some.injEq]
          constructor
          · rintro rfl
            exact namesFirst_of_beginsDirective begins
          · rintro ⟨before, rest, equal, named, leftmost⟩
            have atHead := leftmost [] (c :: text) first rfl begins
            rw [List.length_nil, Nat.le_zero, List.length_eq_zero_iff] at atHead
            rw [atHead, List.nil_append] at equal
            rw [← equal, ← directive?_eq_some_iff, found, Option.some.injEq] at named
            exact named

theorem HoldsDirective.append (holds : HoldsDirective left) (right : Text) :
    HoldsDirective (left ++ right) := by
  rcases holds with ⟨before, _, name, rfl, blanks, c, rest, nonempty, blank, isName, ended, rfl⟩
  exact ⟨before, _, name, List.append_assoc .., blanks, c, rest ++ right, nonempty, blank, isName,
    ended, by simp⟩

theorem HoldsDirective.prepend (holds : HoldsDirective right) (left : Text) :
    HoldsDirective (left ++ right) := by
  rcases holds with ⟨before, rest, name, rfl, begins⟩
  exact ⟨left ++ before, rest, name, (List.append_assoc ..).symm, begins⟩

/-- A name that lacks a blank behind it gets one. -/
theorem EndsInDirective.holdsDirective (ends : EndsInDirective left) (blank : isBlank c = true)
    (right : Text) : HoldsDirective (left ++ c :: right) := by
  rcases ends with ⟨before, blanks, name, nonempty, allBlank, isName, rfl⟩
  exact ⟨before, _, name, List.append_assoc .., blanks, c, right, nonempty, allBlank, isName, blank,
    by simp⟩

/-- A word that lacks a name behind it gets one. -/
theorem EndsInAudioWord.holdsDirective (ends : EndsInAudioWord left) (blank : isBlank c = true)
    (begins : BeginsFileName right) : HoldsDirective (left ++ c :: right) := by
  rcases ends with ⟨before, blanks, allBlank, rfl⟩
  rcases begins with ⟨more, name, d, rest, moreBlank, isName, ended, rfl⟩
  refine ⟨before, _, name, List.append_assoc .., blanks ++ c :: more, d, rest, by simp, ?_, isName,
    ended, by simp⟩
  simp only [Text.allBlank, List.all_append, List.all_cons, Bool.and_eq_true]
  exact ⟨allBlank, blank, moreBlank⟩

/-- A blank that stands in a directive stands among the blanks behind the word, or ends the name,
or is behind the directive. -/
theorem seam_of_beginsDirective (blank : isBlank c = true)
    (begins : BeginsDirective name (left ++ c :: right)) :
    HoldsDirective left ∨ EndsInDirective left ∨ EndsInAudioWord left ∧ BeginsFileName right := by
  rcases begins with ⟨blanks, d, rest, nonempty, allBlank, isName, ended, equal⟩
  have notInWord : c ∉ audioWord := by
    intro mem
    have visible : ∀ d ∈ audioWord, isBlank d = false := by simp [audioWord, isBlank]
    simp [visible c mem] at blank
  have notInName : c ∉ name := by
    intro mem
    simp [isName.visible c mem] at blank
  rcases Text.exists_of_append_cons_eq_append notInWord equal with ⟨more, rfl, afterWord⟩
  rcases Text.append_cons_eq_append_iff.mp afterWord.symm with
    ⟨tail, rfl, rfl⟩ | ⟨tail, rfl, afterBlanks⟩
  · right
    right
    simp only [Text.allBlank, List.all_append, List.all_cons, Bool.and_eq_true] at allBlank
    exact ⟨⟨[], more, allBlank.1, rfl⟩, tail, name, d, rest, allBlank.2.2, isName, ended, rfl⟩
  · rcases Text.exists_of_append_cons_eq_append notInName afterBlanks.symm with
      ⟨last, rfl, afterName⟩
    cases last with
    | nil => exact Or.inr (Or.inl ⟨[], blanks, name, nonempty, allBlank, isName, by simp⟩)
    | cons e last =>
        simp only [List.cons_append, List.cons.injEq] at afterName
        rcases afterName with ⟨rfl, _⟩
        exact Or.inl ⟨[], _, name, rfl, blanks, d, last, nonempty, allBlank, isName, ended, rfl⟩

/-- A directive in two texts with a blank between them stands in one of them, or takes the blank as
the one that ends its file name, or as one behind its word. -/
theorem holdsDirective_append_blank_iff (blank : isBlank c = true) (left right : Text) :
    HoldsDirective (left ++ c :: right) ↔
      HoldsDirective left ∨ EndsInDirective left ∨ (EndsInAudioWord left ∧ BeginsFileName right) ∨
        HoldsDirective right := by
  constructor
  · rintro ⟨before, rest, name, equal, begins⟩
    rcases Text.append_cons_eq_append_iff.mp equal with ⟨tail, rfl, rfl⟩ | ⟨more, rfl, rfl⟩
    · right
      right
      right
      exact ⟨tail, rest, name, rfl, begins⟩
    · rcases seam_of_beginsDirective blank begins with
        holds | ⟨start, blanks, name, nonempty, allBlank, isName, rfl⟩ |
          ⟨⟨start, blanks, allBlank, rfl⟩, named⟩
      · exact Or.inl (holds.prepend before)
      · exact Or.inr (Or.inl ⟨before ++ start, blanks, name, nonempty, allBlank, isName, by simp⟩)
      · exact Or.inr (Or.inr (Or.inl ⟨⟨before ++ start, blanks, allBlank, by simp⟩, named⟩))
  · rintro (holds | ends | ⟨ends, begins⟩ | holds)
    · exact holds.append _
    · exact ends.holdsDirective blank right
    · exact ends.holdsDirective blank begins
    · exact (holds.cons c).prepend left

@[simp]
theorem beginsFileName_newline_cons : BeginsFileName ('\n' :: text) ↔ BeginsFileName text := by
  constructor
  · rintro ⟨blanks, name, c, rest, allBlank, isName, ended, equal⟩
    cases blanks with
    | nil =>
        cases name with
        | nil => exact absurd rfl isName.ne_nil
        | cons d name =>
            simp only [List.nil_append, List.cons_append, List.cons.injEq] at equal
            have visible := isName.visible d (by simp)
            simp [← equal.1] at visible
    | cons d blanks =>
        simp only [List.cons_append, List.cons.injEq] at equal
        simp only [Text.allBlank, List.all_cons, Bool.and_eq_true] at allBlank
        exact ⟨blanks, name, c, rest, allBlank.2, isName, ended, equal.2⟩
  · rintro ⟨blanks, name, c, rest, allBlank, isName, ended, rfl⟩
    refine ⟨'\n' :: blanks, name, c, rest, ?_, isName, ended, rfl⟩
    simpa [Text.allBlank] using allBlank

theorem not_beginsFileName_nil : ¬BeginsFileName [] := by
  rintro ⟨blanks, name, c, rest, _, _, _, equal⟩
  simp at equal

/-- The first visible characters of a text name a file if a blank follows the text. -/
theorem beginsFileName_append_blank (visible : Text.allBlank text = false)
    (blank : isBlank c = true)
    (rest : Text) : BeginsFileName (text ++ c :: rest) := by
  rcases Text.exists_blanks_append_visible visible with ⟨blanks, d, more, allBlank, dVisible, rfl⟩
  have isName : IsFileName ((d :: more).takeWhile fun c => !isBlank c) := by
    constructor
    · simp [dVisible]
    · intro e mem
      simpa using List.all_eq_true.mp List.all_takeWhile e mem
  have whole := List.takeWhile_append_dropWhile (p := fun c => !isBlank c) (l := d :: more)
  cases behind : (d :: more).dropWhile fun c => !isBlank c with
  | nil =>
      rw [behind, List.append_nil] at whole
      refine ⟨blanks, _, c, rest, allBlank, isName, blank, ?_⟩
      rw [whole, List.append_assoc]
  | cons e tail =>
      have ended := List.head?_dropWhile_not (fun c => !isBlank c) (d :: more)
      rw [behind, List.head?_cons] at ended
      rw [behind] at whole
      refine ⟨blanks, _, e, tail ++ c :: rest, allBlank, isName, by simpa using ended, ?_⟩
      rw [← List.cons_append, ← List.append_assoc _ (e :: tail), whole, List.append_assoc]

end ScriptSite.Source
