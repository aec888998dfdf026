import Mathlib.Data.List.Sort
import ScriptSite.Text.Basic

/-!
# The order of texts

Texts are ordered linearly by their characters. So there is one way only to put different texts in
order: two sorted lists without repetitions that hold the same texts are the same
(`eq_of_pairwise_of_mem_iff`).
-/

namespace ScriptSite.Text

variable {first second third : Text} {texts others : List Text}

theorem le_cons_of_ne {c d : Char} (different : c ≠ d) :
    le (c :: first) (d :: second) = true ↔ c.toNat ≤ d.toNat := by
  simp [le, different]

theorem le_cons_self {c : Char} : le (c :: first) (c :: second) = le first second := by
  simp [le]

theorem le_total (first second : Text) : le first second || le second first := by
  induction first generalizing second with
  | nil => simp [le]
  | cons c first ih =>
      cases second with
      | nil => simp [le]
      | cons d second =>
          by_cases same : c = d
          · rw [same, le_cons_self, le_cons_self]
            exact ih second
          · rw [Bool.or_eq_true, le_cons_of_ne same, le_cons_of_ne (Ne.symm same)]
            exact Nat.le_total _ _

theorem le_antisymm (before : le first second = true) (after : le second first = true) :
    first = second := by
  induction first generalizing second with
  | nil =>
      cases second with
      | nil => rfl
      | cons => simp [le] at after
  | cons c first ih =>
      cases second with
      | nil => simp [le] at before
      | cons d second =>
          by_cases same : c = d
          · rw [same, le_cons_self] at before after
            rw [same, ih before after]
          · rw [le_cons_of_ne same] at before
            rw [le_cons_of_ne (Ne.symm same)] at after
            exact absurd (Char.toNat_inj.mp (Nat.le_antisymm before after)) same

theorem le_trans (before : le first second = true) (after : le second third = true) :
    le first third = true := by
  induction first generalizing second third with
  | nil => rfl
  | cons c first ih =>
      cases second with
      | nil => simp [le] at before
      | cons d second =>
          cases third with
          | nil => simp [le] at after
          | cons e third =>
              by_cases same : c = d
              · subst same
                rw [le_cons_self] at before
                by_cases sameNext : c = e
                · subst sameNext
                  rw [le_cons_self] at after ⊢
                  exact ih before after
                · rwa [le_cons_of_ne sameNext] at after ⊢
              · rw [le_cons_of_ne same] at before
                by_cases sameNext : d = e
                · subst sameNext
                  rwa [le_cons_of_ne same]
                · rw [le_cons_of_ne sameNext] at after
                  have differs : c ≠ e := by
                    rintro rfl
                    exact same (Char.toNat_inj.mp (Nat.le_antisymm before after))
                  rw [le_cons_of_ne differs]
                  exact Nat.le_trans before after

theorem pairwise_mergeSort (texts : List Text) :
    (texts.mergeSort le).Pairwise fun first second => le first second = true :=
  @List.pairwise_mergeSort Text le (fun _ _ _ => le_trans) le_total texts

/-- The order of texts is the one that their characters give, compared by their code points. -/
theorem lt_iff_le_and_ne : first < second ↔ le first second = true ∧ first ≠ second := by
  induction first generalizing second with
  | nil =>
      cases second with
      | nil => simp
      | cons => simp [le]
  | cons c first ih =>
      cases second with
      | nil => simp [le]
      | cons d second =>
          rw [List.cons_lt_cons_iff]
          by_cases same : c = d
          · subst same
            simp [le_cons_self, ih]
          · rw [le_cons_of_ne same]
            simp only [same, false_and, or_false, ne_eq, List.cons.injEq, not_false_eq_true,
              and_true]
            constructor
            · intro before
              exact Nat.le_of_lt before
            · intro before
              apply Nat.lt_of_le_of_ne before
              intro equal
              exact same (Char.toNat_inj.mp equal)

/-- Sorted texts that are different from each other get greater and greater. -/
theorem pairwise_lt_of_pairwise_le
    (sorted : texts.Pairwise fun first second => le first second = true) (nodup : texts.Nodup) :
    texts.Pairwise (· < ·) := by
  refine (sorted.and nodup).imp ?_
  intro first second both
  exact lt_iff_le_and_ne.mpr both

/-- Texts can be put in order in one way only. -/
theorem eq_of_pairwise_of_mem_iff
    (sorted : texts.Pairwise fun first second => le first second = true)
    (otherSorted : others.Pairwise fun first second => le first second = true)
    (nodup : texts.Nodup) (otherNodup : others.Nodup)
    (same : ∀ text, text ∈ texts ↔ text ∈ others) : texts = others :=
  ((List.perm_ext_iff_of_nodup nodup otherNodup).mpr same).eq_of_pairwise
    (fun _ _ _ _ => le_antisymm) sorted otherSorted

/-- Putting texts in order by insertion gives the same, and can be evaluated. -/
theorem mergeSort_eq_insertionSort (texts : List Text) :
    texts.mergeSort le = texts.insertionSort fun first second => le first second = true := by
  have perm := (List.mergeSort_perm texts le).trans
    (List.perm_insertionSort (fun first second => le first second = true) texts).symm
  refine perm.eq_of_pairwise (fun _ _ _ _ => le_antisymm) (pairwise_mergeSort texts) ?_
  have total : Std.Total fun first second : Text => le first second = true :=
    ⟨fun first second => by simpa using le_total first second⟩
  have trans : IsTrans Text fun first second => le first second = true :=
    ⟨fun _ _ _ => le_trans⟩
  exact List.pairwise_insertionSort _ texts

end ScriptSite.Text
