import Mathlib.Data.List.TakeWhile
import ScriptSite.Proofs.Source.Block
import ScriptSite.Proofs.Text.Trim
import ScriptSite.Source.Modeline

/-!
# Where modelines begin and end

A modeline begins with a newline and a head: blanks, two slashes, blanks and the word `vim:`. What
follows the head up to the next newline are its options. A head is found in one way only
(`options_eq_of_head_append`), so it does not matter whether a modeline is looked for from the left,
as `stripModelines` does, or from the end of the text, as `EndsInModeline` says it.

The close of a prose block stands on the last line of the block. If a modeline reaches the end of
the body, the close is one of its options and goes with it
(`stripModelines_blockForm_of_endsInModeline`). In every other block only the body changes
(`stripModelines_blockForm`), and it stays the body of a block (`isBody_stripModelines`).
-/

namespace ScriptSite.Source

variable {text rest after body head options : Text}

/-- What a modeline begins with behind its newline. -/
def IsModelineHead (head : Text) : Prop :=
  ∃ left right, Text.allBlank left = true ∧ Text.allBlank right = true ∧
    head = left ++ '/' :: '/' :: (right ++ ['v', 'i', 'm', ':'])

/-- Whether a modeline of the text has the end of the text among its options. -/
def EndsInModeline (text : Text) : Prop :=
  ∃ before head options, IsModelineHead head ∧ '\n' ∉ options ∧
    text = before ++ '\n' :: (head ++ options)

theorem dropWhile_newline_eq_nil_iff : options.dropWhile (· ≠ '\n') = [] ↔ '\n' ∉ options := by
  simp only [List.dropWhile_eq_nil_iff, decide_eq_true_eq]
  constructor
  · intro all mem
    exact all '\n' mem rfl
  · rintro notMem c mem rfl
    exact notMem mem

/-- A text begins with a modeline head exactly if the search for a modeline succeeds, which goes on
behind the options. -/
theorem afterModeline?_eq_some_iff :
    afterModeline? text = some after ↔
      ∃ head options, IsModelineHead head ∧ text = head ++ options ∧
        after = options.dropWhile (· ≠ '\n') := by
  constructor
  · intro found
    rcases Option.bind_eq_some_iff.mp found with ⟨comment, slashes, found⟩
    rcases Option.map_eq_some_iff.mp found with ⟨options, word, rfl⟩
    rw [Text.dropPrefix?_eq_some_iff] at slashes word
    rcases Text.exists_blanks_append_trimLeft text with ⟨left, leftBlank, leftEq⟩
    rcases Text.exists_blanks_append_trimLeft comment with ⟨right, rightBlank, rightEq⟩
    refine ⟨_, options, ⟨left, right, leftBlank, rightBlank, rfl⟩, ?_, rfl⟩
    rw [leftEq, slashes, rightEq, word]
    simp
  · rintro ⟨head, options, ⟨left, right, leftBlank, rightBlank, rfl⟩, rfl, rfl⟩
    have slashes : Text.dropPrefix? ['/', '/']
        (Text.trimLeft (left ++ '/' :: '/' :: (right ++ ['v', 'i', 'm', ':']) ++ options)) =
          some (right ++ ('v' :: 'i' :: 'm' :: ':' :: options)) := by
      rw [Text.dropPrefix?_eq_some_iff, List.append_assoc,
        Text.trimLeft_append_of_allBlank leftBlank, List.cons_append,
        Text.trimLeft_cons_of_visible rfl]
      simp
    have word : Text.dropPrefix? ['v', 'i', 'm', ':']
        (Text.trimLeft (right ++ ('v' :: 'i' :: 'm' :: ':' :: options))) = some options := by
      rw [Text.dropPrefix?_eq_some_iff, Text.trimLeft_append_of_allBlank rightBlank,
        Text.trimLeft_cons_of_visible rfl]
      rfl
    simp only [afterModeline?, slashes, Option.bind_some, word, Option.map_some]

theorem afterModeline?_eq_none_iff :
    afterModeline? text = none ↔ ∀ head options, IsModelineHead head → text ≠ head ++ options := by
  constructor
  · rintro absent head options isHead equal
    have found := afterModeline?_eq_some_iff.mpr ⟨head, options, isHead, equal, rfl⟩
    simp [absent] at found
  · intro noHead
    cases found : afterModeline? text with
    | none => rfl
    | some after =>
        rcases afterModeline?_eq_some_iff.mp found with ⟨head, options, isHead, equal, _⟩
        exact absurd equal (noHead head options isHead)

/-- A head is found in one way, so what follows it is determined by the text. -/
theorem options_eq_of_head_append {other others : Text} (isHead : IsModelineHead head)
    (otherIsHead : IsModelineHead other) (equal : head ++ options = other ++ others) :
    options = others := by
  rcases isHead with ⟨left, right, leftBlank, rightBlank, rfl⟩
  rcases otherIsHead with ⟨left', right', leftBlank', rightBlank', rfl⟩
  have slash : isBlank '/' = false := rfl
  have comments := congrArg Text.trimLeft equal
  simp only [List.append_assoc, List.cons_append, Text.trimLeft_append_of_allBlank leftBlank,
    Text.trimLeft_append_of_allBlank leftBlank', Text.trimLeft_cons_of_visible slash,
    List.cons.injEq, true_and] at comments
  have letter : isBlank 'v' = false := rfl
  have words := congrArg Text.trimLeft comments
  simpa [Text.trimLeft_append_of_allBlank rightBlank,
    Text.trimLeft_append_of_allBlank rightBlank', Text.trimLeft_cons_of_visible letter] using words

/-- A newline in front of a word that has none stands among the blanks before the word. -/
theorem exists_tail_of_append_newline {before blanks word : Text} (notMem : '\n' ∉ word)
    (blank : Text.allBlank blanks = true) (equal : blanks ++ word = before ++ '\n' :: rest) :
    ∃ tail, Text.allBlank tail = true ∧ rest = tail ++ word := by
  rcases List.append_eq_append_iff.mp equal with ⟨more, _, wordEq⟩ | ⟨more, blanksEq, restEq⟩
  · simp [wordEq] at notMem
  · rcases more with _ | ⟨newline, tail⟩
    · rw [List.nil_append] at restEq
      simp [← restEq] at notMem
    · simp only [List.cons_append, List.cons.injEq] at restEq
      refine ⟨tail, ?_, restEq.2⟩
      simp only [blanksEq, Text.allBlank, List.all_append, List.all_cons, Bool.and_eq_true] at blank
      exact blank.2.2

/-- What follows a newline inside a head is a head again, or blanks and the word. -/
theorem isModelineHead_of_append_newline {before : Text}
    (isHead : IsModelineHead (before ++ '\n' :: rest)) :
    IsModelineHead rest ∨
      ∃ right, Text.allBlank right = true ∧ rest = right ++ ['v', 'i', 'm', ':'] := by
  rcases isHead with ⟨left, right, leftBlank, rightBlank, equal⟩
  rcases List.append_eq_append_iff.mp equal with ⟨more, leftEq, restEq⟩ | ⟨more, beforeEq, restEq⟩
  · left
    rcases more with _ | ⟨newline, tail⟩
    · simp at restEq
    · simp only [List.cons_append, List.cons.injEq] at restEq
      refine ⟨tail, right, ?_, rightBlank, restEq.2⟩
      simp only [leftEq, Text.allBlank, List.all_append, List.all_cons,
        Bool.and_eq_true] at leftBlank
      exact leftBlank.2.2
  · right
    rcases more with _ | ⟨first, _ | ⟨second, more⟩⟩
    · simp at restEq
    · simp at restEq
    · simp only [List.cons_append, List.cons.injEq] at restEq
      exact exists_tail_of_append_newline (by decide) rightBlank restEq.2.2

theorem EndsInModeline.append (ends : EndsInModeline text) (before : Text) :
    EndsInModeline (before ++ text) := by
  rcases ends with ⟨start, head, options, isHead, notMem, rfl⟩
  exact ⟨before ++ start, head, options, isHead, notMem, by simp⟩

theorem not_endsInModeline_nil : ¬EndsInModeline [] := by
  rintro ⟨before, head, options, _, _, equal⟩
  simp at equal

theorem endsInModeline_cons_iff {c : Char} :
    EndsInModeline (c :: rest) ↔
      EndsInModeline rest ∨
        c = '\n' ∧ ∃ head options,
          IsModelineHead head ∧ '\n' ∉ options ∧ rest = head ++ options := by
  constructor
  · rintro ⟨before, head, options, isHead, notMem, equal⟩
    cases before with
    | nil =>
        simp only [List.nil_append, List.cons.injEq] at equal
        exact Or.inr ⟨equal.1, head, options, isHead, notMem, equal.2⟩
    | cons first before =>
        simp only [List.cons_append, List.cons.injEq] at equal
        exact Or.inl ⟨before, head, options, isHead, notMem, equal.2⟩
  · rintro (ends | ⟨rfl, head, options, isHead, notMem, rfl⟩)
    · exact ends.append [c]
    · exact ⟨[], head, options, isHead, notMem, rfl⟩

theorem newline_mem_of_endsInModeline (ends : EndsInModeline text) : '\n' ∈ text := by
  rcases ends with ⟨before, head, options, _, _, rfl⟩
  simp

theorem exists_dropWhile_append_newline (before rest : Text) :
    ∃ start, (before ++ '\n' :: rest).dropWhile (· ≠ '\n') = start ++ '\n' :: rest := by
  rw [List.dropWhile_append]
  split
  · exact ⟨[], by simp⟩
  · exact ⟨_, rfl⟩

theorem endsInModeline_dropWhile_append (before : Text) {last : Text}
    (isHead : IsModelineHead head) (notMem : '\n' ∉ last) :
    EndsInModeline ((before ++ '\n' :: (head ++ last)).dropWhile (· ≠ '\n')) := by
  rcases exists_dropWhile_append_newline before (head ++ last) with ⟨start, equal⟩
  exact ⟨start, head, last, isHead, notMem, equal⟩

/-- Of two modelines that a text holds, one reaches the end if the other, which begins further
right, does: they are the same, or the second stands behind the options of the first. -/
theorem endsInModeline_of_later {before later last : Text} (isHead : IsModelineHead head)
    (laterIsHead : IsModelineHead later) (notMem : '\n' ∉ last)
    (equal : head ++ options = before ++ '\n' :: (later ++ last)) :
    '\n' ∉ options ∨ EndsInModeline (options.dropWhile (· ≠ '\n')) := by
  rcases List.append_eq_append_iff.mp equal with ⟨more, _, optionsEq⟩ | ⟨more, headEq, restEq⟩
  · right
    rw [optionsEq]
    exact endsInModeline_dropWhile_append more laterIsHead notMem
  · rcases more with _ | ⟨newline, tail⟩
    · right
      rw [List.nil_append] at restEq
      rw [← restEq]
      exact endsInModeline_dropWhile_append [] laterIsHead notMem
    · simp only [List.cons_append, List.cons.injEq] at restEq
      rcases restEq with ⟨rfl, restEq⟩
      rw [headEq] at isHead
      rcases isModelineHead_of_append_newline isHead with tailIsHead | ⟨right, blank, rfl⟩
      · left
        rwa [← options_eq_of_head_append laterIsHead tailIsHead restEq]
      · rcases laterIsHead with ⟨left', right', blank', _, rfl⟩
        have slash : isBlank '/' = false := rfl
        have letter : isBlank 'v' = false := rfl
        have trimmed := congrArg Text.trimLeft restEq
        simp [Text.trimLeft_append_of_allBlank blank, Text.trimLeft_append_of_allBlank blank',
          Text.trimLeft_cons_of_visible slash, Text.trimLeft_cons_of_visible letter] at trimmed

/-- With a modeline found at its head, a text ends in a modeline exactly if the found one reaches
the end or what stands behind its options ends in one. -/
theorem endsInModeline_iff_of_afterModeline? {after : Text}
    (found : afterModeline? rest = some after) :
    EndsInModeline ('\n' :: rest) ↔ after = [] ∨ EndsInModeline after := by
  rcases afterModeline?_eq_some_iff.mp found with ⟨head, options, isHead, rfl, rfl⟩
  rw [endsInModeline_cons_iff, dropWhile_newline_eq_nil_iff]
  constructor
  · rintro (⟨before, later, last, laterIsHead, notMem, equal⟩ |
      ⟨_, other, last, otherIsHead, notMem, equal⟩)
    · exact endsInModeline_of_later isHead laterIsHead notMem equal
    · left
      rwa [options_eq_of_head_append isHead otherIsHead equal]
  · rintro (notMem | ends)
    · exact Or.inr ⟨rfl, head, options, isHead, notMem, rfl⟩
    · left
      have whole := List.takeWhile_append_dropWhile (p := (· ≠ '\n')) (l := options)
      rw [← whole, ← List.append_assoc]
      exact ends.append _

theorem endsInModeline_iff_of_afterModeline?_none (absent : afterModeline? rest = none) :
    EndsInModeline ('\n' :: rest) ↔ EndsInModeline rest := by
  rw [endsInModeline_cons_iff]
  constructor
  · rintro (ends | ⟨_, head, options, isHead, _, equal⟩)
    · exact ends
    · exact absurd equal (afterModeline?_eq_none_iff.mp absent head options isHead)
  · exact Or.inl

@[simp]
theorem stripModelines_nil : stripModelines [] = [] := by
  simp [stripModelines]

theorem stripModelines_cons_of_ne {c : Char} (notNewline : c ≠ '\n') (rest : Text) :
    stripModelines (c :: rest) = c :: stripModelines rest := by
  simp [stripModelines, notNewline]

theorem stripModelines_of_newline_notMem (notMem : '\n' ∉ text) : stripModelines text = text := by
  induction text with
  | nil => exact stripModelines_nil
  | cons c text ih =>
      simp only [List.mem_cons, not_or] at notMem
      rw [stripModelines_cons_of_ne (Ne.symm notMem.1), ih notMem.2]

theorem stripModelines_newline_of_some {after : Text} (found : afterModeline? rest = some after) :
    stripModelines ('\n' :: rest) = stripModelines after := by
  rw [stripModelines, if_pos rfl]
  split
  · rename_i other otherFound
    rw [found, Option.some.injEq] at otherFound
    rw [otherFound]
  · rename_i absent
    simp [found] at absent

theorem stripModelines_newline_of_none (absent : afterModeline? rest = none) :
    stripModelines ('\n' :: rest) = '\n' :: stripModelines rest := by
  rw [stripModelines, if_pos rfl]
  split
  · rename_i found
    simp [absent] at found
  · rfl

/-- Taking modelines out of a text only takes characters away. -/
theorem stripModelines_sublist (text : Text) : (stripModelines text).Sublist text := by
  fun_induction stripModelines text with
  | case1 => exact List.Sublist.slnil
  | case2 rest after found ih =>
      rcases afterModeline?_eq_some_iff.mp found with ⟨head, options, _, rfl, rfl⟩
      refine ih.trans (List.Sublist.cons _ ?_)
      exact (List.dropWhile_sublist _).trans (List.sublist_append_right head options)
  | case3 rest absent ih => exact ih.cons_cons _
  | case4 c rest notNewline ih => exact ih.cons_cons _

theorem star_notMem_stripModelines (starless : '*' ∉ text) : '*' ∉ stripModelines text :=
  fun mem => starless ((stripModelines_sublist text).mem mem)

/-- A text without the word of a modeline is left as it is. -/
theorem stripModelines_of_not_infix (noWord : ¬['v', 'i', 'm', ':'] <:+: text) :
    stripModelines text = text := by
  induction text with
  | nil => exact stripModelines_nil
  | cons c text ih =>
      have tailNoWord : ¬['v', 'i', 'm', ':'] <:+: text := by
        intro word
        exact noWord (word.trans (List.suffix_cons c text).isInfix)
      by_cases newline : c = '\n'
      · subst newline
        have absent : afterModeline? text = none := by
          rw [afterModeline?_eq_none_iff]
          rintro head options ⟨left, right, _, _, rfl⟩ rfl
          apply tailNoWord
          exact ⟨left ++ '/' :: '/' :: right, options, by simp⟩
        rw [stripModelines_newline_of_none absent, ih tailNoWord]
      · rw [stripModelines_cons_of_ne newline, ih tailNoWord]

/-- No head reaches over a star. -/
theorem afterModeline?_append_star_of_none (absent : afterModeline? text = none) (rest : Text) :
    afterModeline? (text ++ '*' :: rest) = none := by
  rw [afterModeline?_eq_none_iff] at absent ⊢
  intro head options isHead equal
  rcases List.append_eq_append_iff.mp equal with ⟨more, headEq, starEq⟩ | ⟨more, textEq, _⟩
  · rcases more with _ | ⟨star, more⟩
    · rw [List.append_nil] at headEq
      exact absent head [] isHead (by rw [headEq, List.append_nil])
    · simp only [List.cons_append, List.cons.injEq] at starEq
      rcases starEq with ⟨rfl, _⟩
      have starMem : '*' ∈ head := by simp [headEq]
      rcases isHead with ⟨left, right, leftBlank, rightBlank, rfl⟩
      simp only [List.mem_append, List.mem_cons] at starMem
      rcases starMem with mem | impossible | impossible | mem | impossible
      · have blank := Text.allBlank_iff.mp leftBlank '*' mem
        exact absurd blank (by decide)
      · exact absurd impossible (by decide)
      · exact absurd impossible (by decide)
      · have blank := Text.allBlank_iff.mp rightBlank '*' mem
        exact absurd blank (by decide)
      · exact absurd impossible (by decide)
  · exact absent head more isHead textEq

/-- Options that reach the end of a text take a last line after it with them. -/
theorem afterModeline?_append_of_some {after tail : Text} (found : afterModeline? text = some after)
    (notMem : '\n' ∉ tail) :
    afterModeline? (text ++ tail) = some (if after = [] then [] else after ++ tail) := by
  rcases afterModeline?_eq_some_iff.mp found with ⟨head, options, isHead, rfl, rfl⟩
  rw [afterModeline?_eq_some_iff]
  refine ⟨head, options ++ tail, isHead, List.append_assoc .., ?_⟩
  rw [List.dropWhile_append]
  simp only [List.isEmpty_iff]
  split
  · exact (dropWhile_newline_eq_nil_iff.mpr notMem).symm
  · rfl

/-- A last line that begins with a star stays behind a text, unless a modeline of the text reaches
it. -/
theorem stripModelines_append_star (text : Text) (notMem : '\n' ∉ rest) :
    (¬EndsInModeline text →
        stripModelines (text ++ '*' :: rest) = stripModelines text ++ '*' :: rest) ∧
      (EndsInModeline text → stripModelines (text ++ '*' :: rest) = stripModelines text) := by
  have tailNotMem : '\n' ∉ '*' :: rest := by simp [notMem]
  fun_induction stripModelines text with
  | case1 =>
      refine ⟨?_, fun ends => absurd ends not_endsInModeline_nil⟩
      intro _
      exact stripModelines_of_newline_notMem tailNotMem
  | case2 text after found ih =>
      have reached := afterModeline?_append_of_some found tailNotMem
      rw [List.cons_append, stripModelines_newline_of_some reached,
        endsInModeline_iff_of_afterModeline? found]
      by_cases done : after = []
      · simp [done]
      · simpa [done] using ih
  | case3 text absent ih =>
      have stillAbsent := afterModeline?_append_star_of_none absent rest
      rw [List.cons_append, stripModelines_newline_of_none stillAbsent,
        endsInModeline_iff_of_afterModeline?_none absent]
      simpa using ih
  | case4 c text notNewline ih =>
      have same : EndsInModeline (c :: text) ↔ EndsInModeline text := by
        simp [endsInModeline_cons_iff, notNewline]
      rw [List.cons_append, stripModelines_cons_of_ne notNewline, same]
      simpa using ih

theorem stripModelines_blockOpen_append (rest : Text) :
    stripModelines (blockOpen ++ rest) = blockOpen ++ stripModelines rest := by
  simp [blockOpen, stripModelines_cons_of_ne]

/-- In a block that no modeline leaves, modelines are taken out of the body. -/
theorem stripModelines_blockForm (stays : ¬EndsInModeline body) :
    stripModelines (blockForm body) = blockForm (stripModelines body) := by
  have kept := (stripModelines_append_star body (by decide : '\n' ∉ ['/'])).1 stays
  rw [blockForm, List.append_assoc, stripModelines_blockOpen_append, blockClose, kept, blockForm,
    blockClose, List.append_assoc]

/-- A modeline that reaches the end of a body takes the close of the block with it. -/
theorem stripModelines_blockForm_of_endsInModeline (ends : EndsInModeline body) :
    stripModelines (blockForm body) = blockOpen ++ stripModelines body := by
  have taken := (stripModelines_append_star body (by decide : '\n' ∉ ['/'])).2 ends
  rw [blockForm, List.append_assoc, stripModelines_blockOpen_append, blockClose, taken]

theorem stripModelines_ne_nil (nonempty : text ≠ []) (stays : ¬EndsInModeline text) :
    stripModelines text ≠ [] := by
  fun_induction stripModelines text with
  | case1 => exact nonempty
  | case2 rest after found ih =>
      rw [endsInModeline_iff_of_afterModeline? found, not_or] at stays
      exact ih stays.1 stays.2
  | case3 rest absent ih => simp
  | case4 c rest notNewline ih => simp

/-- The body of a block that no modeline leaves is still the body of a block without its
modelines. -/
theorem isBody_stripModelines (isBody : IsBody body) (stays : ¬EndsInModeline body) :
    IsBody (stripModelines body) where
  ne_nil := stripModelines_ne_nil isBody.ne_nil stays
  star_notMem := star_notMem_stripModelines isBody.star_notMem

end ScriptSite.Source
