import Mathlib.Data.List.Forall2
import Mathlib.Order.Defs.Unbundled
import ScriptSite.Disk.Access

/-!
# Running actions

An action that can fail is run on a state and gives its outcome and the state from then on. A
sequence of two actions succeeds if both do, the second on the state that the first leaves, and it
fails if the first fails or the second fails after it. Everything about larger actions is taken
apart with these two facts.

An action that leaves every state as it is only looks (`OnlyLooks`). What a list of such actions
gives is what each of them gives on the same state. What an action may fail with (`FailsOnly`,
`StopsOnly`) and how it may change the state (`Respects`) is found out from its parts.
-/

namespace ScriptSite

variable {ε ε' σ α β : Type} {action : ExceptT ε (StateM σ) α} {next : α → ExceptT ε (StateM σ) β}
  {before after : σ}

theorem exists_of_mapError_eq_error {outcome : Except ε α} {f : ε → ε'} {e' : ε'}
    (failed : outcome.mapError f = .error e') : ∃ e, outcome = .error e ∧ f e = e' := by
  cases outcome with
  | error e => exact ⟨e, rfl, by simpa [Except.mapError] using failed⟩
  | ok => simp [Except.mapError] at failed

theorem mapError_eq_ok_iff {outcome : Except ε α} {f : ε → ε'} {a : α} :
    outcome.mapError f = .ok a ↔ outcome = .ok a := by
  cases outcome <;> simp [Except.mapError]

/-- The outcome of an action on a state, and the state from then on. -/
def runOn (action : ExceptT ε (StateM σ) α) (state : σ) : Except ε α × σ :=
  action.run.run state

@[simp]
theorem runOn_pure (a : α) (state : σ) :
    runOn (pure a : ExceptT ε (StateM σ) α) state = (.ok a, state) := rfl

@[simp]
theorem runOn_throw (e : ε) (state : σ) :
    runOn (throw e : ExceptT ε (StateM σ) α) state = (.error e, state) := rfl

@[simp]
theorem runOn_get (state : σ) : runOn (get : ExceptT ε (StateM σ) σ) state = (.ok state, state) :=
  rfl

@[simp]
theorem runOn_liftExcept (outcome : Except ε α) (state : σ) :
    runOn (liftExcept outcome : ExceptT ε (StateM σ) α) state = (outcome, state) := by
  cases outcome <;> rfl

theorem runOn_adapt (f : ε → ε') (action : ExceptT ε (StateM σ) α) (state : σ) :
    runOn (ExceptT.adapt f action) state =
      ((runOn action state).1.mapError f, (runOn action state).2) := rfl

theorem runOn_bind (action : ExceptT ε (StateM σ) α) (next : α → ExceptT ε (StateM σ) β)
    (state : σ) :
    runOn (action >>= next) state =
      match runOn action state with
      | (.ok a, later) => runOn (next a) later
      | (.error e, later) => (.error e, later) := by
  change (match (runOn action state).1 with
    | .ok a => (next a).run
    | .error e => pure (.error e) : StateM σ (Except ε β)).run (runOn action state).2 = _
  rcases runOn action state with ⟨_ | a, later⟩ <;> rfl

theorem runOn_tryCatch (action : ExceptT ε (StateM σ) α) (handle : ε → ExceptT ε (StateM σ) α)
    (state : σ) :
    runOn (tryCatch action handle) state =
      match runOn action state with
      | (.ok a, later) => (.ok a, later)
      | (.error e, later) => runOn (handle e) later := by
  change (match (runOn action state).1 with
    | .ok a => pure (.ok a)
    | .error e => (handle e).run : StateM σ (Except ε α)).run (runOn action state).2 = _
  rcases runOn action state with ⟨_ | a, later⟩ <;> rfl

/-- A sequence succeeds exactly if its parts do, one after the other. -/
theorem runOn_bind_eq_ok_iff {b : β} :
    runOn (action >>= next) before = (.ok b, after) ↔
      ∃ a mid, runOn action before = (.ok a, mid) ∧ runOn (next a) mid = (.ok b, after) := by
  rw [runOn_bind]
  rcases runOn action before with ⟨_ | a, mid⟩ <;> simp

/-- A list of actions succeeds exactly if its first does, and then the others do. -/
theorem runOn_mapM_cons_eq_ok_iff {f : β → ExceptT ε (StateM σ) α} {b : β} {bs : List β}
    {as : List α} :
    runOn ((b :: bs).mapM f) before = (.ok as, after) ↔
      ∃ a rest mid, as = a :: rest ∧ runOn (f b) before = (.ok a, mid) ∧
        runOn (bs.mapM f) mid = (.ok rest, after) := by
  rw [List.mapM_cons, runOn_bind_eq_ok_iff]
  constructor
  · rintro ⟨a, mid, first, run⟩
    rcases runOn_bind_eq_ok_iff.mp run with ⟨rest, last, later, final⟩
    rw [runOn_pure, Prod.mk.injEq, Except.ok.injEq] at final
    rcases final with ⟨rfl, rfl⟩
    exact ⟨a, rest, mid, rfl, first, later⟩
  · rintro ⟨a, rest, mid, rfl, first, later⟩
    exact ⟨a, mid, first, runOn_bind_eq_ok_iff.mpr ⟨rest, after, later, rfl⟩⟩

/-- A sequence fails exactly if its first part does, or its second does after the first. -/
theorem runOn_bind_eq_error_iff {e : ε} :
    runOn (action >>= next) before = (.error e, after) ↔
      runOn action before = (.error e, after) ∨
        ∃ a mid, runOn action before = (.ok a, mid) ∧ runOn (next a) mid = (.error e, after) := by
  rw [runOn_bind]
  rcases runOn action before with ⟨_ | a, mid⟩ <;> simp

theorem runOn_adapt_eq_ok_iff {f : ε → ε'} {a : α} :
    runOn (ExceptT.adapt f action) before = (.ok a, after) ↔
      runOn action before = (.ok a, after) := by
  rw [runOn_adapt]
  rcases runOn action before with ⟨_ | a, mid⟩ <;> simp [Except.mapError]

theorem runOn_adapt_eq_error_iff {f : ε → ε'} {e' : ε'} :
    runOn (ExceptT.adapt f action) before = (.error e', after) ↔
      ∃ e, runOn action before = (.error e, after) ∧ f e = e' := by
  rw [runOn_adapt]
  rcases runOn action before with ⟨e | a, mid⟩ <;> simp [Except.mapError, and_comm]

/-- Whether an action leaves every state as it is. -/
def OnlyLooks (action : ExceptT ε (StateM σ) α) : Prop :=
  ∀ state, (runOn action state).2 = state

namespace OnlyLooks

theorem eq_of_runOn {outcome : Except ε α} (looks : OnlyLooks action)
    (run : runOn action before = (outcome, after)) : after = before := by
  have same := looks before
  rwa [run] at same

theorem runOn_eq {outcome : Except ε α} (looks : OnlyLooks action)
    (found : (runOn action state).1 = outcome) : runOn action state = (outcome, state) :=
  Prod.ext found (looks state)

theorem adapt (f : ε → ε') (looks : OnlyLooks action) : OnlyLooks (ExceptT.adapt f action) :=
  looks

theorem bind (looks : OnlyLooks action) (nextLooks : ∀ a, OnlyLooks (next a)) :
    OnlyLooks (action >>= next) := by
  intro state
  rw [runOn_bind]
  rcases run : runOn action state with ⟨_ | a, later⟩
  · exact looks.eq_of_runOn run
  · exact (nextLooks a later).trans (looks.eq_of_runOn run)

theorem mapM {f : β → ExceptT ε (StateM σ) α} (looks : ∀ b, OnlyLooks (f b)) (bs : List β) :
    OnlyLooks (bs.mapM f) := by
  induction bs with
  | nil =>
      rw [List.mapM_nil]
      exact fun _ => rfl
  | cons b bs ih =>
      rw [List.mapM_cons]
      exact (looks b).bind fun a => ih.bind fun as _ => rfl

theorem forM {f : β → ExceptT ε (StateM σ) PUnit} (looks : ∀ b, OnlyLooks (f b)) (bs : List β) :
    OnlyLooks (bs.forM f) := by
  induction bs with
  | nil => exact fun _ => rfl
  | cons b bs ih => exact (looks b).bind fun _ => ih

theorem filterAuxM {p : β → ExceptT ε (StateM σ) Bool} (looks : ∀ b, OnlyLooks (p b))
    (bs kept : List β) : OnlyLooks (bs.filterAuxM p kept) := by
  induction bs generalizing kept with
  | nil => exact fun _ => rfl
  | cons b bs ih =>
      rw [List.filterAuxM]
      exact (looks b).bind fun keeps => ih _

theorem filterM {p : β → ExceptT ε (StateM σ) Bool} (looks : ∀ b, OnlyLooks (p b))
    (bs : List β) : OnlyLooks (bs.filterM p) :=
  (filterAuxM looks bs []).bind fun _ _ => rfl

end OnlyLooks

/-- Whether an action, when it fails, fails with an error of the class `p`. -/
def FailsOnly (p : ε → Prop) (action : ExceptT ε (StateM σ) α) : Prop :=
  ∀ before after e, runOn action before = (.error e, after) → p e

namespace FailsOnly

variable {p : ε → Prop}

theorem pure (p : ε → Prop) (a : α) :
    FailsOnly p (Pure.pure a : ExceptT ε (StateM σ) α) := by
  intro before after e run
  cases run

theorem throw {e : ε} (holds : p e) :
    FailsOnly p (MonadExcept.throw e : ExceptT ε (StateM σ) α) := by
  intro before after e' run
  cases run
  exact holds

theorem adapt {f : ε' → ε} (holds : ∀ e, p (f e)) (action : ExceptT ε' (StateM σ) α) :
    FailsOnly p (ExceptT.adapt f action) := by
  intro before after e run
  rcases runOn_adapt_eq_error_iff.mp run with ⟨cause, _, rfl⟩
  exact holds cause

theorem bind (fails : FailsOnly p action) (nextFails : ∀ a, FailsOnly p (next a)) :
    FailsOnly p (action >>= next) := by
  intro before after e run
  rcases runOn_bind_eq_error_iff.mp run with first | ⟨a, mid, _, second⟩
  · exact fails _ _ _ first
  · exact nextFails a _ _ _ second

theorem mapM {f : β → ExceptT ε (StateM σ) α} (fails : ∀ b, FailsOnly p (f b)) (bs : List β) :
    FailsOnly p (bs.mapM f) := by
  induction bs with
  | nil =>
      rw [List.mapM_nil]
      exact .pure p _
  | cons b bs ih =>
      rw [List.mapM_cons]
      exact (fails b).bind fun _ => ih.bind fun _ => .pure p _

end FailsOnly

/-- Whether an action, when it fails, leaves a state and an error that a relation allows together.
-/
def StopsOnly (p : σ → ε → Prop) (action : ExceptT ε (StateM σ) α) : Prop :=
  ∀ before after e, runOn action before = (.error e, after) → p after e

namespace StopsOnly

variable {p : σ → ε → Prop}

theorem of_failsOnly {q : ε → Prop} (fails : FailsOnly q action)
    (allows : ∀ state e, q e → p state e) : StopsOnly p action :=
  fun before after e run => allows after e (fails before after e run)

theorem mono {q : σ → ε → Prop} (stops : StopsOnly q action)
    (allows : ∀ state e, q state e → p state e) : StopsOnly p action :=
  fun before after e run => allows after e (stops before after e run)

theorem pure (p : σ → ε → Prop) (a : α) :
    StopsOnly p (Pure.pure a : ExceptT ε (StateM σ) α) :=
  of_failsOnly (FailsOnly.pure (fun _ => False) a) fun _ _ => False.elim

theorem bind (stops : StopsOnly p action) (nextStops : ∀ a, StopsOnly p (next a)) :
    StopsOnly p (action >>= next) := by
  intro before after e run
  rcases runOn_bind_eq_error_iff.mp run with first | ⟨a, mid, _, second⟩
  · exact stops _ _ _ first
  · exact nextStops a _ _ _ second

theorem mapM {f : β → ExceptT ε (StateM σ) α} {bs : List β} (stops : ∀ b ∈ bs, StopsOnly p (f b)) :
    StopsOnly p (bs.mapM f) := by
  induction bs with
  | nil =>
      rw [List.mapM_nil]
      exact .pure p _
  | cons b bs ih =>
      rw [List.mapM_cons]
      refine (stops b List.mem_cons_self).bind fun _ => ?_
      exact (ih fun b mem => stops b (List.mem_cons_of_mem _ mem)).bind fun _ => .pure p _

theorem forM {f : β → ExceptT ε (StateM σ) PUnit} {bs : List β}
    (stops : ∀ b ∈ bs, StopsOnly p (f b)) : StopsOnly p (bs.forM f) := by
  induction bs with
  | nil => exact .pure p _
  | cons b bs ih =>
      refine (stops b List.mem_cons_self).bind fun _ => ?_
      exact ih fun b mem => stops b (List.mem_cons_of_mem _ mem)

theorem filterAuxM {test : β → ExceptT ε (StateM σ) Bool} {bs : List β}
    (stops : ∀ b ∈ bs, StopsOnly p (test b)) (kept : List β) :
    StopsOnly p (bs.filterAuxM test kept) := by
  induction bs generalizing kept with
  | nil => exact .pure p _
  | cons b bs ih =>
      rw [List.filterAuxM]
      refine (stops b List.mem_cons_self).bind fun _ => ?_
      exact ih (fun b mem => stops b (List.mem_cons_of_mem _ mem)) _

theorem filterM {test : β → ExceptT ε (StateM σ) Bool} {bs : List β}
    (stops : ∀ b ∈ bs, StopsOnly p (test b)) : StopsOnly p (bs.filterM test) :=
  (filterAuxM stops []).bind fun _ => .pure p _

end StopsOnly

/-- Whether every run of an action leads from a state to one that a relation allows. -/
def Respects (R : σ → σ → Prop) (action : ExceptT ε (StateM σ) α) : Prop :=
  ∀ before outcome after, runOn action before = (outcome, after) → R before after

namespace Respects

variable {R S : σ → σ → Prop}

theorem mono (respects : Respects R action)
    (allows : ∀ before after, R before after → S before after) :
    Respects S action :=
  fun before outcome after run => allows _ _ (respects before outcome after run)

theorem adapt {f : ε → ε'} (respects : Respects R action) :
    Respects R (ExceptT.adapt f action) := by
  intro before outcome after run
  rw [runOn_adapt] at run
  cases run
  exact respects _ _ _ rfl

variable [IsPreorder σ R]

theorem of_onlyLooks (looks : OnlyLooks action) : Respects R action := by
  intro before outcome after run
  rw [looks.eq_of_runOn run]
  exact refl_of R before

theorem pure (R : σ → σ → Prop) [IsPreorder σ R] (a : α) :
    Respects R (Pure.pure a : ExceptT ε (StateM σ) α) :=
  of_onlyLooks fun _ => rfl

theorem bind (respects : Respects R action) (nextRespects : ∀ a, Respects R (next a)) :
    Respects R (action >>= next) := by
  intro before outcome after run
  rw [runOn_bind] at run
  rcases first : runOn action before with ⟨e | a, mid⟩
  · rw [first] at run
    cases run
    exact respects _ _ _ first
  · rw [first] at run
    exact trans_of R (respects _ _ _ first) (nextRespects a _ _ _ run)

theorem tryCatch {handle : ε → ExceptT ε (StateM σ) α} (respects : Respects R action)
    (handleRespects : ∀ e, Respects R (handle e)) :
    Respects R (MonadExcept.tryCatch action handle) := by
  intro before outcome after run
  rw [runOn_tryCatch] at run
  rcases first : runOn action before with ⟨e | a, mid⟩
  · rw [first] at run
    exact trans_of R (respects _ _ _ first) (handleRespects e _ _ _ run)
  · rw [first] at run
    cases run
    exact respects _ _ _ first

theorem mapM {f : β → ExceptT ε (StateM σ) α} {bs : List β}
    (respects : ∀ b ∈ bs, Respects R (f b)) :
    Respects R (bs.mapM f) := by
  induction bs with
  | nil =>
      rw [List.mapM_nil]
      exact .pure R _
  | cons b bs ih =>
      rw [List.mapM_cons]
      refine (respects b List.mem_cons_self).bind fun _ => ?_
      exact (ih fun b mem => respects b (List.mem_cons_of_mem _ mem)).bind fun _ => .pure R _

theorem forM {f : β → ExceptT ε (StateM σ) PUnit} {bs : List β}
    (respects : ∀ b ∈ bs, Respects R (f b)) : Respects R (bs.forM f) := by
  induction bs with
  | nil => exact .pure R _
  | cons b bs ih =>
      refine (respects b List.mem_cons_self).bind fun _ => ?_
      exact ih fun b mem => respects b (List.mem_cons_of_mem _ mem)

end Respects

/-- Whether an action gives the same on two states, and leaves both as they are. -/
def Agrees (action : ExceptT ε (StateM σ) α) (before after : σ) : Prop :=
  ∃ outcome, runOn action before = (outcome, before) ∧ runOn action after = (outcome, after)

namespace Agrees

theorem pure (a : α) (before after : σ) :
    Agrees (Pure.pure a : ExceptT ε (StateM σ) α) before after :=
  ⟨.ok a, rfl, rfl⟩

theorem adapt (f : ε → ε') (agrees : Agrees action before after) :
    Agrees (ExceptT.adapt f action) before after := by
  rcases agrees with ⟨outcome, first, second⟩
  exact ⟨outcome.mapError f, by rw [runOn_adapt, first], by rw [runOn_adapt, second]⟩

theorem bind (agrees : Agrees action before after)
    (nextAgrees : ∀ a, Agrees (next a) before after) : Agrees (action >>= next) before after := by
  rcases agrees with ⟨outcome, first, second⟩
  cases outcome with
  | error e => exact ⟨.error e, by rw [runOn_bind, first], by rw [runOn_bind, second]⟩
  | ok a =>
      rcases nextAgrees a with ⟨outcome, nextFirst, nextSecond⟩
      refine ⟨outcome, ?_, ?_⟩
      · rw [runOn_bind, first]
        exact nextFirst
      · rw [runOn_bind, second]
        exact nextSecond

theorem mapM {f : β → ExceptT ε (StateM σ) α} (agrees : ∀ b, Agrees (f b) before after)
    (bs : List β) : Agrees (bs.mapM f) before after := by
  induction bs with
  | nil =>
      rw [List.mapM_nil]
      exact .pure _ _ _
  | cons b bs ih =>
      rw [List.mapM_cons]
      exact (agrees b).bind fun _ => ih.bind fun _ => .pure _ _ _

theorem forM {f : β → ExceptT ε (StateM σ) PUnit} (agrees : ∀ b, Agrees (f b) before after)
    (bs : List β) : Agrees (bs.forM f) before after := by
  induction bs with
  | nil => exact .pure _ _ _
  | cons b bs ih => exact (agrees b).bind fun _ => ih

theorem filterAuxM {p : β → ExceptT ε (StateM σ) Bool} (agrees : ∀ b, Agrees (p b) before after)
    (bs kept : List β) : Agrees (bs.filterAuxM p kept) before after := by
  induction bs generalizing kept with
  | nil => exact .pure _ _ _
  | cons b bs ih =>
      rw [List.filterAuxM]
      exact (agrees b).bind fun _ => ih _

theorem filterM {p : β → ExceptT ε (StateM σ) Bool} (agrees : ∀ b, Agrees (p b) before after)
    (bs : List β) : Agrees (bs.filterM p) before after :=
  (filterAuxM agrees bs []).bind fun _ => .pure _ _ _

/-- What an action gives on one of the states it gives on the other. -/
theorem runOn_eq {outcome : Except ε α} {later : σ} (agrees : Agrees action before after)
    (run : runOn action after = (outcome, later)) :
    later = after ∧ runOn action before = (outcome, before) := by
  rcases agrees with ⟨same, first, second⟩
  rw [second, Prod.mk.injEq] at run
  exact ⟨run.2.symm, run.1 ▸ first⟩

end Agrees

theorem agrees_liftExcept (outcome : Except ε α) (before after : σ) :
    Agrees (liftExcept outcome : ExceptT ε (StateM σ) α) before after :=
  ⟨outcome, by simp, by simp⟩

/-- Actions that only look give, one by one, what each gives on the same state. -/
theorem runOn_mapM_eq_ok_iff {f : β → ExceptT ε (StateM σ) α} (looks : ∀ b, OnlyLooks (f b))
    {bs : List β} {as : List α} :
    runOn (bs.mapM f) before = (.ok as, after) ↔
      List.Forall₂ (fun b a => runOn (f b) before = (.ok a, before)) bs as ∧ after = before := by
  induction bs generalizing as with
  | nil => simp [eq_comm]
  | cons b bs ih =>
      rw [runOn_mapM_cons_eq_ok_iff]
      constructor
      · rintro ⟨a, rest, mid, rfl, first, later⟩
        have same := (looks b).eq_of_runOn first
        subst same
        rcases ih.mp later with ⟨each, same⟩
        exact ⟨.cons first each, same⟩
      · rintro ⟨each, rfl⟩
        rcases List.forall₂_cons_left_iff.mp each with ⟨a, rest, first, later, rfl⟩
        exact ⟨a, rest, after, rfl, first, ih.mpr ⟨later, rfl⟩⟩

theorem runOn_forM_eq_ok_iff {f : β → ExceptT ε (StateM σ) PUnit} (looks : ∀ b, OnlyLooks (f b))
    {bs : List β} :
    runOn (bs.forM f) before = (.ok ⟨⟩, after) ↔
      (∀ b ∈ bs, runOn (f b) before = (.ok ⟨⟩, before)) ∧ after = before := by
  induction bs with
  | nil => simp [eq_comm]
  | cons b bs ih =>
      change runOn (f b >>= fun _ => bs.forM f) before = (.ok ⟨⟩, after) ↔ _
      rw [runOn_bind_eq_ok_iff, List.forall_mem_cons]
      constructor
      · rintro ⟨_, mid, first, run⟩
        have same := (looks b).eq_of_runOn first
        subst same
        rcases ih.mp run with ⟨each, same⟩
        exact ⟨⟨first, each⟩, same⟩
      · rintro ⟨⟨first, each⟩, rfl⟩
        exact ⟨⟨⟩, after, first, ih.mpr ⟨each, rfl⟩⟩

/-- What is kept while filtering with actions that only look are, in order, the members for which
the action says yes on the same state. -/
theorem exists_of_runOn_filterAuxM {p : β → ExceptT ε (StateM σ) Bool}
    (looks : ∀ b, OnlyLooks (p b)) {bs kept found : List β}
    (run : runOn (bs.filterAuxM p kept) before = (.ok found, after)) :
    ∃ more : List β, found = more.reverse ++ kept ∧ more.Sublist bs ∧
      ∀ b, b ∈ more ↔ b ∈ bs ∧ runOn (p b) before = (.ok true, before) := by
  induction bs generalizing kept with
  | nil =>
      rw [List.filterAuxM, runOn_pure, Prod.mk.injEq, Except.ok.injEq] at run
      exact ⟨[], by simpa using run.1.symm, .slnil, by simp⟩
  | cons b bs ih =>
      rw [List.filterAuxM, runOn_bind_eq_ok_iff] at run
      rcases run with ⟨keeps, mid, first, run⟩
      have same := (looks b).eq_of_runOn first
      subst same
      rcases ih run with ⟨more, rfl, sublist, mem_iff⟩
      cases keeps with
      | true =>
          refine ⟨b :: more, by simp, sublist.cons_cons b, ?_⟩
          intro c
          rw [List.mem_cons, List.mem_cons, mem_iff]
          by_cases same : c = b
          · simp [same, first]
          · simp [same]
      | false =>
          refine ⟨more, rfl, sublist.cons b, ?_⟩
          intro c
          rw [List.mem_cons, mem_iff]
          by_cases same : c = b
          · simp [same, first]
          · simp [same]

theorem sublist_of_runOn_filterM {p : β → ExceptT ε (StateM σ) Bool} (looks : ∀ b, OnlyLooks (p b))
    {bs found : List β} (run : runOn (bs.filterM p) before = (.ok found, after)) :
    found.Sublist bs ∧ ∀ b, b ∈ found ↔ b ∈ bs ∧ runOn (p b) before = (.ok true, before) := by
  rw [List.filterM, runOn_bind_eq_ok_iff] at run
  rcases run with ⟨backwards, mid, filtered, run⟩
  rw [runOn_pure, Prod.mk.injEq, Except.ok.injEq] at run
  rcases exists_of_runOn_filterAuxM looks filtered with ⟨more, rfl, sublist, mem_iff⟩
  have same : found = more := by
    simpa using run.1.symm
  rw [same]
  exact ⟨sublist, mem_iff⟩

end ScriptSite
