import ScriptSite.Proofs.Text.Search

/-!
# All places of a mark

`behindEach` lists what stands behind each place where a mark occurs. The places in a concatenation
are those in its parts (`behindEach_append`), provided that no occurrence lies across the seam. None
does if the left text ends with a character that the mark could only end with, or if the right text
begins with one that the mark could only begin with.
-/

namespace ScriptSite.Text

variable {mark text left right : Text} {c m : Char}

/-- What stands behind each place where a mark occurs, in the order of the places. -/
def behindEach (mark : Text) : Text → List Text
  | [] => []
  | c :: rest =>
      match dropPrefix? mark (c :: rest) with
      | some after => after :: behindEach mark rest
      | none => behindEach mark rest

/-- How often a mark occurs in a text. -/
def occurrences (mark text : Text) : Nat :=
  (behindEach mark text).length

/-- Whether no occurrence of a mark begins in one text and ends in the next. -/
def NoneAcross (mark left right : Text) : Prop :=
  ∀ first last, first ≠ [] → last ≠ [] → mark = first ++ last → first <:+ left → ¬last <+: right

theorem noneAcross_of_getLast? (last : left.getLast? = some c) (notMem : c ∉ mark.dropLast)
    (right : Text) : NoneAcross mark left right := by
  intro first rest nonempty restNonempty equal ends _
  rcases ends with ⟨before, rfl⟩
  rw [List.getLast?_append, List.getLast?_eq_some_getLast nonempty, Option.some_or] at last
  have mem : c ∈ first := by
    rw [← Option.some.inj last]
    exact List.getLast_mem nonempty
  apply notMem
  rw [equal, List.dropLast_append_of_ne_nil restNonempty]
  exact List.mem_append_left _ mem

theorem noneAcross_of_head? (begins : right.head? = some c) (notMem : c ∉ mark.tail) (left : Text) :
    NoneAcross mark left right := by
  intro first last nonempty lastNonempty equal _ beginsLast
  apply notMem
  rcases List.exists_cons_of_ne_nil nonempty with ⟨d, first, rfl⟩
  rcases List.exists_cons_of_ne_nil lastNonempty with ⟨e, last, rfl⟩
  rcases beginsLast with ⟨rest, rfl⟩
  rw [List.cons_append, List.head?_cons, Option.some.injEq] at begins
  simp [equal, begins]

theorem behindEach_append (apart : NoneAcross mark left right) :
    behindEach mark (left ++ right) =
      (behindEach mark left).map (· ++ right) ++ behindEach mark right := by
  induction left with
  | nil => rfl
  | cons c left ih =>
      have later : NoneAcross mark left right := fun first last nonempty lastNonempty equal ends =>
        apart first last nonempty lastNonempty equal (ends.trans (List.suffix_cons c left))
      rw [List.cons_append, behindEach, ih later, behindEach]
      cases found : dropPrefix? mark (c :: left) with
      | some after =>
          have begins : dropPrefix? mark (c :: (left ++ right)) = some (after ++ right) := by
            rw [dropPrefix?_eq_some_iff, ← List.append_assoc, ← dropPrefix?_eq_some_iff.mp found]
            rfl
          rw [begins]
          rfl
      | none =>
          have absent : dropPrefix? mark (c :: (left ++ right)) = none := by
            rw [dropPrefix?_eq_none_iff] at found ⊢
            rintro ⟨rest, whole⟩
            rw [← List.cons_append] at whole
            rcases List.append_eq_append_iff.mp whole with
              ⟨more, inside, _⟩ | ⟨last, equal, outside⟩
            · exact found ⟨more, inside.symm⟩
            · cases last with
              | nil => exact found ⟨[], by simpa using equal⟩
              | cons d last =>
                  exact apart _ _ (List.cons_ne_nil c left) (List.cons_ne_nil d last) equal
                    List.suffix_rfl ⟨rest, outside.symm⟩
          rw [absent]

theorem occurrences_append (apart : NoneAcross mark left right) :
    occurrences mark (left ++ right) = occurrences mark left + occurrences mark right := by
  simp [occurrences, behindEach_append apart]

theorem behindEach_eq_nil_iff (nonempty : mark ≠ []) :
    behindEach mark text = [] ↔ ¬mark <:+: text := by
  induction text with
  | nil => simp [behindEach, nonempty]
  | cons c rest ih =>
      rw [behindEach, List.infix_cons_iff, not_or, ← ih]
      cases found : dropPrefix? mark (c :: rest) with
      | some after =>
          have begins : mark <+: c :: rest := ⟨after, (dropPrefix?_eq_some_iff.mp found).symm⟩
          simp [begins]
      | none => simp [dropPrefix?_eq_none_iff.mp found]

theorem occurrences_eq_zero_iff (nonempty : mark ≠ []) :
    occurrences mark text = 0 ↔ ¬mark <:+: text := by
  rw [occurrences, List.length_eq_zero_iff, behindEach_eq_nil_iff nonempty]

theorem behindEach_append_of_isClear (clear : isClear mark left = true) (right : Text) :
    behindEach mark (left ++ right) = behindEach mark right := by
  induction left with
  | nil => rfl
  | cons c left ih =>
      simp only [isClear, Bool.and_eq_true, Bool.not_eq_true'] at clear
      have absent : dropPrefix? mark (c :: left ++ right) = none :=
        dropPrefix?_eq_none_iff.mpr
          (not_prefix_of_agree_eq_false (agree_append_eq_false clear.1 right))
      rw [List.cons_append] at absent ⊢
      rw [behindEach, absent]
      exact ih clear.2

theorem splitFirst?_append_of_isClear (clear : isClear mark left = true) (right : Text) :
    splitFirst? mark (left ++ (mark ++ right)) = some (left, right) := by
  have found : dropPrefix? mark (mark ++ right) = some right := dropPrefix?_eq_some_iff.mpr rfl
  induction left with
  | nil =>
      cases whole : mark ++ right with
      | nil =>
          rcases List.append_eq_nil_iff.mp whole with ⟨rfl, rfl⟩
          rfl
      | cons c rest =>
          rw [whole] at found
          rw [List.nil_append, splitFirst?, found]
  | cons c left ih =>
      simp only [isClear, Bool.and_eq_true, Bool.not_eq_true'] at clear
      have absent : dropPrefix? mark (c :: left ++ (mark ++ right)) = none :=
        dropPrefix?_eq_none_iff.mpr
          (not_prefix_of_agree_eq_false (agree_append_eq_false clear.1 _))
      rw [List.cons_append] at absent ⊢
      rw [splitFirst?, absent, ih clear.2]
      rfl

/-- A mark is found on either side of a character that it has not, and nowhere else. -/
theorem occurrences_append_cons (nonempty : mark ≠ []) (notMem : c ∉ mark) (left right : Text) :
    occurrences mark (left ++ c :: right) = occurrences mark left + occurrences mark right := by
  have notMemTail : c ∉ mark.tail := fun mem => notMem (List.mem_of_mem_tail mem)
  have absent : dropPrefix? mark (c :: right) = none := by
    rcases List.exists_cons_of_ne_nil nonempty with ⟨m, mark, rfl⟩
    simp [dropPrefix?, Ne.symm (List.ne_of_not_mem_cons notMem)]
  rw [occurrences_append (noneAcross_of_head? rfl notMemTail left)]
  simp [occurrences, behindEach, absent]

end ScriptSite.Text
