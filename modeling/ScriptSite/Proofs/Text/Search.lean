import ScriptSite.Text.Basic

/-!
# Where a mark occurs

A mark occurs in a text where it is an infix. `splitFirst?` cuts at the first place and `splitLast?`
at the last. A text that is clear of a mark holds no place where the mark could begin, even if the
mark reached over the end of the text (`isClear`), so a mark that none of some texts holds is not
found across their seams either.
-/

namespace ScriptSite.Text

variable {mark text before after left right : Text} {c m n : Char}

/-- What stands before and after the last place where `mark` occurs. -/
def splitLast? (mark : Text) : Text → Option (Text × Text)
  | [] => if mark.isEmpty then some ([], []) else none
  | c :: rest =>
      match splitLast? mark rest with
      | some (before, after) => some (c :: before, after)
      | none => (dropPrefix? mark (c :: rest)).map fun after => ([], after)

/-- Whether two texts agree as far as both of them go. -/
def agree : Text → Text → Bool
  | [], _ => true
  | _ :: _, [] => true
  | c :: left, d :: right => c == d && agree left right

/-- Whether a mark begins nowhere in a text, as far as the text can tell. -/
def isClear (mark : Text) : Text → Bool
  | [] => true
  | c :: rest => !agree mark (c :: rest) && isClear mark rest

theorem dropPrefix?_eq_none_iff : dropPrefix? mark text = none ↔ ¬mark <+: text := by
  rw [Option.eq_none_iff_forall_ne_some]
  constructor
  · rintro none ⟨rest, equal⟩
    exact none rest (dropPrefix?_eq_some_iff.mpr equal.symm)
  · intro noPrefix rest found
    exact noPrefix ⟨rest, (dropPrefix?_eq_some_iff.mp found).symm⟩

theorem splitLast?_eq_none_iff (nonempty : mark ≠ []) :
    splitLast? mark text = none ↔ ¬mark <:+: text := by
  induction text with
  | nil => simp [splitLast?, nonempty]
  | cons c rest ih =>
      rw [splitLast?, List.infix_cons_iff, not_or, ← ih]
      cases found : splitLast? mark rest with
      | some => simp
      | none => simp [dropPrefix?_eq_none_iff]

/-- The last occurrence is one behind which no further begins. -/
theorem splitLast?_append (last : ¬(m :: mark) <:+: mark ++ after) (before : Text) :
    splitLast? (m :: mark) (before ++ m :: (mark ++ after)) = some (before, after) := by
  induction before with
  | nil =>
      have none := (splitLast?_eq_none_iff (List.cons_ne_nil m mark)).mpr last
      have found : dropPrefix? (m :: mark) (m :: (mark ++ after)) = some after :=
        dropPrefix?_eq_some_iff.mpr rfl
      rw [List.nil_append, splitLast?, none, found]
      rfl
  | cons c before ih => rw [List.cons_append, splitLast?, ih]

/-- Texts that differ somewhere differ however they go on. -/
theorem agree_append_eq_false (differ : agree left right = false) (more : Text) :
    agree left (right ++ more) = false := by
  induction left generalizing right with
  | nil => simp [agree] at differ
  | cons c left ih =>
      cases right with
      | nil => simp [agree] at differ
      | cons d right =>
          by_cases same : c = d
          · rw [same] at differ ⊢
            simpa [agree] using ih (by simpa [agree] using differ)
          · simp [agree, same]

theorem not_prefix_of_agree_eq_false (differ : agree mark text = false) : ¬mark <+: text := by
  rintro ⟨rest, rfl⟩
  induction mark with
  | nil => simp [agree] at differ
  | cons c mark ih => exact ih (by simpa [agree] using differ)

theorem isClear_append (leftClear : isClear mark left = true)
    (rightClear : isClear mark right = true) :
    isClear mark (left ++ right) = true := by
  induction left with
  | nil => exact rightClear
  | cons c left ih =>
      simp only [isClear, Bool.and_eq_true, Bool.not_eq_true'] at leftClear
      simp only [List.cons_append, isClear, Bool.and_eq_true, Bool.not_eq_true']
      exact ⟨agree_append_eq_false leftClear.1 right, ih leftClear.2⟩

theorem isClear_flatten {texts : List Text} (clear : texts.all (isClear mark) = true) :
    isClear mark texts.flatten = true := by
  induction texts with
  | nil => rfl
  | cons text texts ih =>
      rw [List.all_cons, Bool.and_eq_true] at clear
      exact isClear_append clear.1 (ih clear.2)

/-- A text without the first character of a mark is clear of it. -/
theorem isClear_of_notMem (notMem : m ∉ text) : isClear (m :: mark) text = true := by
  induction text with
  | nil => rfl
  | cons c text ih =>
      rw [List.mem_cons, not_or] at notMem
      simp [isClear, agree, notMem.1, ih notMem.2]

/-- A mark does not occur in a text that is clear of it. -/
theorem not_infix_of_isClear (clear : isClear mark text = true) (nonempty : mark ≠ []) :
    ¬mark <:+: text := by
  induction text with
  | nil => simpa using nonempty
  | cons c text ih =>
      simp only [isClear, Bool.and_eq_true, Bool.not_eq_true'] at clear
      rw [List.infix_cons_iff, not_or]
      exact ⟨not_prefix_of_agree_eq_false clear.1, ih clear.2⟩

theorem isClear_of_head?_notMem (begins : mark.head? = some m) (notMem : m ∉ text) :
    isClear mark text = true := by
  rcases List.head?_eq_some_iff.mp begins with ⟨rest, rfl⟩
  exact isClear_of_notMem notMem

theorem not_infix_of_head?_notMem (begins : mark.head? = some m) (notMem : m ∉ text) :
    ¬mark <:+: text := by
  intro occurs
  exact notMem (occurs.subset (List.mem_of_head? begins))

/-- A mark of two different characters and more is found behind a text that has not the second. -/
theorem splitFirst?_append_of_notMem (different : m ≠ n) (notMem : n ∉ before) (mark after : Text) :
    splitFirst? (m :: n :: mark) (before ++ m :: n :: (mark ++ after)) = some (before, after) := by
  induction before with
  | nil =>
      have found : dropPrefix? (m :: n :: mark) (m :: n :: (mark ++ after)) = some after :=
        dropPrefix?_eq_some_iff.mpr rfl
      rw [List.nil_append, splitFirst?, found]
  | cons c before ih =>
      rw [List.mem_cons, not_or] at notMem
      have absent : dropPrefix? (m :: n :: mark) (c :: (before ++ m :: n :: (mark ++ after))) =
          none := by
        rw [dropPrefix?_eq_none_iff]
        intro begins
        have second := (List.cons_prefix_cons.mp begins).2
        cases before with
        | nil => exact different (List.cons_prefix_cons.mp second).1.symm
        | cons d before =>
            have same := (List.cons_prefix_cons.mp second).1
            simp [same] at notMem
      rw [List.cons_append, splitFirst?, absent, ih notMem.2]
      rfl

end ScriptSite.Text
