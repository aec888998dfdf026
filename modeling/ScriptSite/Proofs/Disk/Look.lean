import ScriptSite.Proofs.Disk.Run

/-!
# Looking again

An action that only looks gives something on a state, or it fails; `Gives` says what it gives if it
does not fail with an error of a certain class. When a list is looked through again on another
state, and some of its members are new, then what comes out is the same as before if every old
member gives what it gave, and the new ones give nothing.
-/

namespace ScriptSite

variable {ε σ α β : Type} {p : ε → Prop} {action : ExceptT ε (StateM σ) α}
  {next : α → ExceptT ε (StateM σ) β} {before after : σ} {a : α} {b : β} {old : β → Bool}
  {bs : List β}

/-- Whether an action gives an outcome on a state and leaves the state as it is, unless it fails
with an error of the class `p`. -/
def Gives (p : ε → Prop) (action : ExceptT ε (StateM σ) α) (state : σ) (a : α) : Prop :=
  runOn action state = (.ok a, state) ∨ ∃ e, p e ∧ runOn action state = (.error e, state)

namespace Gives

theorem of_ok (run : runOn action after = (.ok a, after)) : Gives p action after a :=
  Or.inl run

theorem of_agrees (agrees : Agrees action before after)
    (run : runOn action before = (.ok a, before)) : Gives p action after a := by
  rcases agrees with ⟨outcome, first, second⟩
  rw [first, Prod.mk.injEq] at run
  exact .of_ok (run.1 ▸ second)

theorem pure (p : ε → Prop) (a : α) (after : σ) :
    Gives p (Pure.pure a : ExceptT ε (StateM σ) α) after a :=
  .of_ok rfl

theorem bind (gives : Gives p action after a) (nextGives : Gives p (next a) after b) :
    Gives p (action >>= next) after b := by
  rcases gives with run | ⟨e, allowed, run⟩
  · rcases nextGives with nextRun | ⟨e, allowed, nextRun⟩
    · exact Or.inl (runOn_bind_eq_ok_iff.mpr ⟨a, after, run, nextRun⟩)
    · exact Or.inr ⟨e, allowed, runOn_bind_eq_error_iff.mpr (Or.inr ⟨a, after, run, nextRun⟩)⟩
  · exact Or.inr ⟨e, allowed, runOn_bind_eq_error_iff.mpr (Or.inl run)⟩

theorem forM {f : β → ExceptT ε (StateM σ) PUnit} {done : PUnit}
    (looks : ∀ b, OnlyLooks (f b)) (first : runOn (bs.forM f) before = (.ok done, before))
    (again : ∀ b ∈ bs, runOn (f b) before = (.ok ⟨⟩, before) → Gives p (f b) after ⟨⟩) :
    Gives p (bs.forM f) after ⟨⟩ := by
  induction bs with
  | nil => exact .pure p _ after
  | cons b bs ih =>
      rcases runOn_bind_eq_ok_iff.mp first with ⟨_, mid, head, rest⟩
      have same := (looks b).eq_of_runOn head
      subst same
      refine (again b List.mem_cons_self head).bind ?_
      exact ih rest fun b mem => again b (List.mem_cons_of_mem _ mem)

/-- What the new members of a list give does not count if they give nothing. -/
theorem mapM {f : β → ExceptT ε (StateM σ) (List α)} {found : List (List α)}
    (looks : ∀ b, OnlyLooks (f b))
    (first : runOn ((bs.filter old).mapM f) before = (.ok found, before))
    (again : ∀ b ∈ bs, old b = true → ∀ as, runOn (f b) before = (.ok as, before) →
      Gives p (f b) after as)
    (new : ∀ b ∈ bs, old b = false → Gives p (f b) after []) :
    ∃ now, Gives p (bs.mapM f) after now ∧ now.flatten = found.flatten := by
  induction bs generalizing found with
  | nil =>
      cases first
      exact ⟨[], .pure p _ after, rfl⟩
  | cons b bs ih =>
      have laterAgain := fun b mem => again b (List.mem_cons_of_mem _ mem)
      have laterNew := fun b mem => new b (List.mem_cons_of_mem _ mem)
      simp only [List.mapM_cons]
      cases isOld : old b with
      | true =>
          rw [List.filter_cons_of_pos isOld] at first
          rcases runOn_mapM_cons_eq_ok_iff.mp first with ⟨as, rest, mid, rfl, head, tail⟩
          have same := (looks b).eq_of_runOn head
          subst same
          rcases ih tail laterAgain laterNew with ⟨now, gives, same⟩
          refine ⟨as :: now, (again b List.mem_cons_self isOld as head).bind ?_, by simp [same]⟩
          exact gives.bind (.pure p _ after)
      | false =>
          rw [List.filter_cons_of_neg (by simp [isOld])] at first
          rcases ih first laterAgain laterNew with ⟨now, gives, same⟩
          refine ⟨[] :: now, (new b List.mem_cons_self isOld).bind ?_, by simp [same]⟩
          exact gives.bind (.pure p _ after)

theorem filterAuxM {test : β → ExceptT ε (StateM σ) Bool} {kept found : List β}
    (looks : ∀ b, OnlyLooks (test b))
    (first : runOn ((bs.filter old).filterAuxM test kept) before = (.ok found, before))
    (again : ∀ b ∈ bs, old b = true → ∀ keeps, runOn (test b) before = (.ok keeps, before) →
      Gives p (test b) after keeps)
    (new : ∀ b ∈ bs, old b = false → Gives p (test b) after false) :
    Gives p (bs.filterAuxM test kept) after found := by
  induction bs generalizing kept with
  | nil =>
      cases first
      exact .pure p _ after
  | cons b bs ih =>
      have laterAgain := fun b mem => again b (List.mem_cons_of_mem _ mem)
      have laterNew := fun b mem => new b (List.mem_cons_of_mem _ mem)
      rw [List.filterAuxM]
      cases isOld : old b with
      | true =>
          rw [List.filter_cons_of_pos isOld, List.filterAuxM, runOn_bind_eq_ok_iff] at first
          rcases first with ⟨keeps, mid, head, first⟩
          have same := (looks b).eq_of_runOn head
          subst same
          exact (again b List.mem_cons_self isOld keeps head).bind (ih first laterAgain laterNew)
      | false =>
          rw [List.filter_cons_of_neg (by simp [isOld])] at first
          exact (new b List.mem_cons_self isOld).bind (ih first laterAgain laterNew)

theorem filterM {test : β → ExceptT ε (StateM σ) Bool} {found : List β}
    (looks : ∀ b, OnlyLooks (test b))
    (first : runOn ((bs.filter old).filterM test) before = (.ok found, before))
    (again : ∀ b ∈ bs, old b = true → ∀ keeps, runOn (test b) before = (.ok keeps, before) →
      Gives p (test b) after keeps)
    (new : ∀ b ∈ bs, old b = false → Gives p (test b) after false) :
    Gives p (bs.filterM test) after found := by
  rw [List.filterM, runOn_bind_eq_ok_iff] at first
  rcases first with ⟨backwards, mid, filtered, final⟩
  have same := (OnlyLooks.filterAuxM looks _ _).eq_of_runOn filtered
  subst same
  cases final
  exact (filterAuxM looks filtered again new).bind (.pure p _ after)

end Gives

end ScriptSite
