import Mathlib.Data.List.TakeWhile
import ScriptSite.Markdown.Render
import ScriptSite.Proofs.Markdown.Prose
import ScriptSite.Proofs.Text.Lines

/-!
# Sources that are taken as they are

Before blocks are read, a source is brought into normal form and its HTML blocks are set aside. Both
leave a source alone that has nothing to change. Prose is in normal form, but for the newlines at
its end, when no line behind another begins with a space (`normalize_of_flush`). A text in which
neither tags nor references begin is passed in one step and holds no blocks
(`extractBlocks_of_notMem`).
-/

namespace ScriptSite.Markdown

variable {text source : Text}

theorem normalizeNewlines_of_notMem (absent : '\r' ∉ text) :
    Text.normalizeNewlines text = text := by
  fun_induction Text.normalizeNewlines text with
  | case1 => rfl
  | case2 rest ih => simp at absent
  | case3 c rest notPair ih =>
      simp only [List.mem_cons, not_or] at absent
      rw [ih absent.2, if_neg (Ne.symm absent.1)]

theorem expandTabs_of_notMem (absent : '\t' ∉ text) (column : Nat) :
    expandTabs column text = text := by
  induction text generalizing column with
  | nil => rfl
  | cons c text ih =>
      simp only [List.mem_cons, not_or] at absent
      rw [expandTabs, if_neg (Ne.symm absent.1), ih absent.2, ih absent.2, ite_self]

/-- Whether no space stands behind a newline, so that no line but the first can begin with one. -/
def IsFlush (text : Text) : Prop :=
  text.IsChain fun c d => c = '\n' → d ≠ ' '

theorem IsFlush.head?_ne_space {line : Text} (flush : IsFlush text)
    (mem : line ∈ (Text.lines text).tail) : line.head? ≠ some ' ' := by
  induction text with
  | nil => simp [Text.lines, Text.splitWhere] at mem
  | cons c text ih =>
      rcases List.isChain_cons.mp flush with ⟨first, later⟩
      by_cases newline : c = '\n'
      · rw [newline, Text.lines_newline_cons, List.tail_cons] at mem
        rcases Text.head?_or_mem_tail_of_mem_lines mem with rfl | begins | inTail
        · simp
        · rw [begins]
          exact fun space => first ' ' space newline rfl
        · exact ih later inTail
      · rw [Text.lines_cons_of_ne newline, List.tail_modifyHead] at mem
        exact ih later mem

/-- A line that does not begin with a space does not hold spaces only, unless it is empty. -/
theorem emptySpaceLines_of_flush (flush : IsFlush text) :
    emptySpaceLines (Text.lines text) = Text.lines text := by
  have kept : ∀ line ∈ (Text.lines text).tail,
      (if line.all (· == ' ') then [] else line) = line := by
    intro line mem
    cases line with
    | nil => rfl
    | cons c line =>
        have other : c ≠ ' ' := by simpa using flush.head?_ne_space mem
        simp [other]
  cases found : Text.lines text with
  | nil => rfl
  | cons first rest =>
      rw [found, List.tail_cons] at kept
      rw [emptySpaceLines, List.map_congr_left kept, List.map_id']

theorem normalize_of_flush (prose : ∀ c ∈ source, isProseChar c = true)
    (flush : IsFlush (source ++ ['\n', '\n'])) : normalize source = source ++ ['\n', '\n'] := by
  have noControls : source.filter (fun c => c.toNat ≠ 2 ∧ c.toNat ≠ 3) = source := by
    apply List.filter_eq_self.mpr
    intro c mem
    have other : ∀ n, isProseChar (Char.ofNat n) = false → c.toNat ≠ n := by
      rintro _ control rfl
      rw [Char.ofNat_toNat] at control
      exact notMem_of_isProseChar prose control mem
    simp [other 2 (by decide), other 3 (by decide)]
  have noReturn : '\r' ∉ source := notMem_of_isProseChar prose (by decide)
  have noTab : '\t' ∉ source ++ ['\n', '\n'] := by
    simp [notMem_of_isProseChar prose (show isProseChar '\t' = false by decide)]
  rw [normalize, noControls, normalizeNewlines_of_notMem noReturn, expandTabs_of_notMem noTab,
    emptySpaceLines_of_flush flush, Text.unlines_lines]

namespace Extraction

variable {state : Extraction}

@[simp]
theorem chunks_pass (text : Text) (state : Extraction) :
    (state.pass text).chunks = state.chunks := by
  rw [pass]
  split <;> rfl

@[simp]
theorem block_pass (text : Text) (state : Extraction) : (state.pass text).block = state.block := by
  rw [pass]
  split <;> rfl

theorem step_of_notMem (final : Bool) (notOpaque : state.opaqueTag = none) (less : '<' ∉ text)
    (ampersand : '&' ∉ text) (ne_nil : text ≠ []) :
    step final state text = .stop ((state.onText text).pass text) [] := by
  have outside : ∀ c ∈ text, decide (c ≠ '<' ∧ c ≠ '&') = true := by
    intro c mem
    have notLess : c ≠ '<' := fun same => less (same ▸ mem)
    have notAmpersand : c ≠ '&' := fun same => ampersand (same ▸ mem)
    simp [notLess, notAmpersand]
  have whole : splitAtConstruct? state.opaqueTag text = some (text, []) := by
    rw [notOpaque, splitAtConstruct?, List.takeWhile_eq_self_iff.mpr outside,
      List.dropWhile_eq_nil_iff.mpr outside]
  rw [step, whole]
  dsimp only
  rw [if_neg (by simpa using ne_nil)]

theorem runPass_of_notMem (final : Bool) (notOpaque : state.opaqueTag = none)
    (less : '<' ∉ state.source) (ampersand : '&' ∉ state.source) (ne_nil : state.source ≠ []) :
    state.runPass final = { (state.onText state.source).pass state.source with source := [] } := by
  have nonempty : state.source.isEmpty = false := by simpa using ne_nil
  rw [runPass, run, nonempty, step_of_notMem final notOpaque less ampersand ne_nil]
  simp

/-- A pass over nothing changes nothing. -/
theorem runPass_of_source_eq_nil (final : Bool) (empty : state.source = []) :
    state.runPass final = state := by
  rw [runPass, empty]
  simp [run, ← empty]

end Extraction

theorem extractBlocks_of_notMem (less : '<' ∉ source) (ampersand : '&' ∉ source)
    (ne_nil : source ≠ []) : extractBlocks source = Run.ofText source := by
  rw [extractBlocks, Extraction.runPass_of_notMem false rfl less ampersand ne_nil,
    Extraction.runPass_of_source_eq_nil true rfl]
  simp [Extraction.onText, Extraction.emitText, Extraction.emit]

end ScriptSite.Markdown
