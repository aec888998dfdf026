import Mathlib.Data.List.Chain
import ScriptSite.Markdown.Glyph
import ScriptSite.Text.Basic

/-!
# Plain prose

Plain prose is made of words of ASCII letters, digits and quotes. Words stand on a line with single
spaces between them, lines make a paragraph, and a blank line stands between two paragraphs.

What a reader of markup gets to see of it is a text without marks in which no two blanks are
neighbours (`IsUnmarked`). A word, a line and a paragraph have no blank at either end in addition
(`IsTight`), and joining such texts by single blanks gives such a text again (`IsTight.join`).
-/

namespace ScriptSite.Markdown

/-- Whether a character can stand in a word of plain prose. -/
def isPlainChar (c : Char) : Bool :=
  c.isAlphanum || c == '\'' || c == '"'

structure IsPlainWord (word : Text) : Prop where
  ne_nil : word ≠ []
  plain : ∀ c ∈ word, isPlainChar c = true

/-- Whether some lines, each the list of its words, make a paragraph of plain prose. -/
structure IsPlainParagraph (lines : List (List Text)) : Prop where
  ne_nil : lines ≠ []
  line_ne_nil : ∀ words ∈ lines, words ≠ []
  word : ∀ words ∈ lines, ∀ word ∈ words, IsPlainWord word

-- By `List.all`, since a statement about all characters in a word may be decided by trying all
-- characters there are.
theorem isPlainWord_iff {word : Text} :
    IsPlainWord word ↔ word ≠ [] ∧ word.all isPlainChar = true := by
  rw [List.all_eq_true]
  exact ⟨fun plain => ⟨plain.ne_nil, plain.plain⟩, fun parts => ⟨parts.1, parts.2⟩⟩

instance (word : Text) : Decidable (IsPlainWord word) :=
  decidable_of_iff _ isPlainWord_iff.symm

instance (lines : List (List Text)) : Decidable (IsPlainParagraph lines) :=
  decidable_of_iff
    (lines ≠ [] ∧ (∀ words ∈ lines, words ≠ []) ∧ ∀ words ∈ lines, ∀ word ∈ words, IsPlainWord word)
    ⟨fun parts => ⟨parts.1, parts.2.1, parts.2.2⟩,
      fun plain => ⟨plain.ne_nil, plain.line_ne_nil, plain.word⟩⟩

def lineText (words : List Text) : Text :=
  Text.joinWith [' '] words

def paragraphText (lines : List (List Text)) : Text :=
  Text.unlines (lines.map lineText)

/-- Plain prose: paragraphs with a blank line between neighbours, and newlines above and below. -/
def proseText (above below : Nat) (paragraphs : List (List (List Text))) : Text :=
  List.replicate above '\n' ++
    (Text.joinWith ['\n', '\n'] (paragraphs.map paragraphText) ++ List.replicate below '\n')

/-- Whether a character can stand in plain prose, as part of a word or between words. -/
def isProseChar (c : Char) : Bool :=
  isPlainChar c || c == ' ' || c == '\n'

/-- Whether a text holds no marks and no two blanks in a row. -/
structure IsUnmarked (text : Text) : Prop where
  prose : ∀ c ∈ text, isProseChar c = true
  spaced : text.IsChain fun c d => isBlank c = false ∨ isBlank d = false

/-- Whether a text holds no marks and single blanks only, none of them at an end. -/
structure IsTight (text : Text) : Prop extends IsUnmarked text where
  begins : ∃ c ∈ text.head?, isBlank c = false
  ends : ∃ c ∈ text.getLast?, isBlank c = false

/-- The paragraph that shows a text. -/
def paragraphOf (text : Text) : Element :=
  Element.ofRun .paragraph (Run.ofText text)

/-- The document whose paragraphs show some texts. -/
def documentOf (texts : List Text) : Element :=
  (Element.empty .document).withChildren (texts.map paragraphOf)

variable {c separator : Char} {text left right : Text}

theorem isBlank_of_isAlphanum (alphanum : c.isAlphanum = true) : isBlank c = false := by
  delta Char.isAlphanum Char.isAlpha Char.isUpper Char.isLower Char.isDigit at alphanum
  simp only [ge_iff_le, UInt32.le_iff_toNat_le, Bool.or_eq_true, Bool.and_eq_true,
    decide_eq_true_eq] at alphanum
  change ((65 ≤ c.toNat ∧ c.toNat ≤ 90) ∨ (97 ≤ c.toNat ∧ c.toNat ≤ 122)) ∨
    (48 ≤ c.toNat ∧ c.toNat ≤ 57) at alphanum
  simp only [isBlank, Bool.or_eq_false_iff, Bool.and_eq_false_iff, decide_eq_false_iff_not,
    beq_eq_false_iff_ne]
  omega

theorem isBlank_of_isPlainChar (plain : isPlainChar c = true) : isBlank c = false := by
  simp only [isPlainChar, Bool.or_eq_true, beq_iff_eq] at plain
  rcases plain with (alphanum | rfl) | rfl
  · exact isBlank_of_isAlphanum alphanum
  · rfl
  · rfl

theorem isProseChar_of_isPlainChar (plain : isPlainChar c = true) : isProseChar c = true := by
  simp [isProseChar, plain]

theorem newline_ne_of_visible (visible : isBlank c = false) : '\n' ≠ c :=
  ne_of_apply_ne isBlank (by rw [visible]; decide)

/-- A mark does not stand in a text without marks. -/
theorem notMem_of_isProseChar (prose : ∀ c ∈ text, isProseChar c = true)
    (mark : isProseChar c = false) : c ∉ text := by
  intro mem
  rw [prose c mem] at mark
  exact absurd mark (by decide)

namespace IsUnmarked

theorem nil : IsUnmarked [] :=
  ⟨by simp, .nil⟩

theorem tail (unmarked : IsUnmarked (c :: text)) : IsUnmarked text :=
  ⟨fun d mem => unmarked.prose d (List.mem_cons_of_mem c mem), (List.isChain_cons.mp
    unmarked.spaced).2⟩

theorem notMem (unmarked : IsUnmarked text) (mark : isProseChar c = false) : c ∉ text :=
  notMem_of_isProseChar unmarked.prose mark

/-- Two blanks do not stand at the head of a text that has single blanks only. -/
theorem not_blank_blank {d : Char} (unmarked : IsUnmarked (c :: d :: text))
    (blank : isBlank c = true) : isBlank d = false := by
  rcases (List.isChain_cons_cons.mp unmarked.spaced).1 with visible | visible
  · rw [blank] at visible
    exact absurd visible (by decide)
  · exact visible

end IsUnmarked

namespace IsTight

theorem exists_cons (tight : IsTight text) : ∃ c rest, text = c :: rest ∧ isBlank c = false := by
  rcases tight.begins with ⟨c, mem, visible⟩
  rcases List.head?_eq_some_iff.mp mem with ⟨rest, equal⟩
  exact ⟨c, rest, equal, visible⟩

theorem exists_concat (tight : IsTight text) :
    ∃ before c, text = before ++ [c] ∧ isBlank c = false := by
  rcases tight.ends with ⟨c, mem, visible⟩
  rcases List.getLast?_eq_some_iff.mp mem with ⟨before, equal⟩
  exact ⟨before, c, equal, visible⟩

theorem append (tightLeft : IsTight left) (tightRight : IsTight right)
    (prose : isProseChar separator = true) : IsTight (left ++ separator :: right) := by
  rcases tightLeft.ends with ⟨final, finalMem, finalVisible⟩
  rcases tightRight.begins with ⟨first, firstMem, firstVisible⟩
  refine ⟨⟨?_, ?_⟩, ?_, ?_⟩
  · simp only [List.mem_append, List.mem_cons]
    rintro c (mem | rfl | mem)
    · exact tightLeft.prose c mem
    · exact prose
    · exact tightRight.prose c mem
  · rw [List.isChain_append, List.isChain_cons]
    refine ⟨tightLeft.spaced, ⟨?_, tightRight.spaced⟩, ?_⟩
    · intro d mem
      rw [Option.mem_unique mem firstMem]
      exact Or.inr firstVisible
    · intro d mem _ _
      rw [Option.mem_unique mem finalMem]
      exact Or.inl finalVisible
  · rcases tightLeft.exists_cons with ⟨c, rest, rfl, visible⟩
    exact ⟨c, rfl, visible⟩
  · rcases tightRight.exists_concat with ⟨before, c, rfl, visible⟩
    refine ⟨c, ?_, visible⟩
    rw [← List.cons_append, ← List.append_assoc]
    exact List.getLast?_concat

/-- Texts without blanks at their ends can be joined by single blanks. -/
theorem join {texts : List Text} (prose : isProseChar separator = true) (ne_nil : texts ≠ [])
    (tight : ∀ text ∈ texts, IsTight text) : IsTight ([separator].intercalate texts) := by
  induction texts with
  | nil => exact absurd rfl ne_nil
  | cons first texts ih =>
      have firstTight := tight first List.mem_cons_self
      cases texts with
      | nil => simpa using firstTight
      | cons second texts =>
          have restTight := ih (by simp) fun text mem => tight text (List.mem_cons_of_mem _ mem)
          rw [List.intercalate_cons_cons, List.append_assoc]
          exact firstTight.append restTight prose

end IsTight

theorem IsPlainWord.isTight {word : Text} (plain : IsPlainWord word) : IsTight word := by
  have visible : ∀ c ∈ word, isBlank c = false :=
    fun c mem => isBlank_of_isPlainChar (plain.plain c mem)
  refine ⟨⟨fun c mem => isProseChar_of_isPlainChar (plain.plain c mem), ?_⟩, ?_, ?_⟩
  · apply List.Pairwise.isChain
    apply List.pairwise_of_forall_mem_list
    intro c mem d _
    exact Or.inl (visible c mem)
  · refine ⟨word.head plain.ne_nil, List.head?_eq_some_head plain.ne_nil, ?_⟩
    exact visible _ (List.head_mem plain.ne_nil)
  · refine ⟨word.getLast plain.ne_nil, List.getLast?_eq_some_getLast plain.ne_nil, ?_⟩
    exact visible _ (List.getLast_mem plain.ne_nil)

theorem IsPlainParagraph.isTight {lines : List (List Text)} (plain : IsPlainParagraph lines) :
    IsTight (paragraphText lines) := by
  apply IsTight.join (by decide) (by simpa using plain.ne_nil)
  intro text mem
  rcases List.mem_map.mp mem with ⟨words, wordsMem, rfl⟩
  apply IsTight.join (by decide) (plain.line_ne_nil words wordsMem)
  intro word wordMem
  exact (plain.word words wordsMem word wordMem).isTight

end ScriptSite.Markdown
