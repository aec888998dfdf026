import ScriptSite.Markdown.Inline
import ScriptSite.Proofs.Markdown.Prose
import ScriptSite.Proofs.Markdown.Run

/-!
# Inline markup is found at marks only

Every inline rule begins with a mark, except for the line break, which begins with two blanks. So
the rules find nothing in a run that shows a text without marks and with single blanks, whatever
stands in front of it (`isSilent_of_mem_inlineRules`), and a search leaves such a run, and a tree
of such runs, as it is.
-/

namespace ScriptSite.Markdown

/-- Whether a rule finds nothing at the head of a text without marks. -/
def Rule.IsSilent (rule : Rule) : Prop :=
  ∀ before text, IsUnmarked text → rule before (Run.ofText text) = .none

variable {rule : Rule} {rules : List Rule} {text : Text}

theorem isSilent_codeRule : codeRule.IsSilent := by
  intro before text unmarked
  have slash : '\\' ∉ text := unmarked.notMem (by decide)
  have tick : '`' ∉ text := unmarked.notMem (by decide)
  rw [codeRule]
  split
  · rfl
  · simp [Run.takeWhile_is_of_notMem slash, Run.takeWhile_is_of_notMem tick, code?]

theorem isSilent_escapeRule : escapeRule.IsSilent := by
  intro before text unmarked
  have slash : '\\' ∉ text := unmarked.notMem (by decide)
  unfold escapeRule
  split
  · rename_i equal
    exact absurd (Run.mem_of_ofText_eq_cons equal) slash
  · rename_i equal
    exact absurd (Run.mem_of_ofText_eq_cons equal) slash
  · rfl

theorem linkText?_eq_none (unmarked : IsUnmarked text) (image : Bool) (before : Option Glyph) :
    linkText? image before (Run.ofText text) = none := by
  have bracket : '[' ∉ text := unmarked.notMem (by decide)
  have exclamation : '!' ∉ text := unmarked.notMem (by decide)
  rw [linkText?, Run.dropPrefix?_of_notMem bracket, Run.dropPrefix?_of_notMem exclamation]
  split
  · rfl
  · split <;> rfl

theorem isSilent_namedLinkRule (image : Bool) (definitions : Definitions) :
    (namedLinkRule image definitions).IsSilent := by
  intro before text unmarked
  rw [namedLinkRule, linkText?_eq_none unmarked]
  rfl

theorem isSilent_inlineLinkRule (image : Bool) : (inlineLinkRule image).IsSilent := by
  intro before text unmarked
  rw [inlineLinkRule, linkText?_eq_none unmarked]
  rfl

theorem isSilent_shortLinkRule (image : Bool) (definitions : Definitions) :
    (shortLinkRule image definitions).IsSilent := by
  intro before text unmarked
  rw [shortLinkRule, linkText?_eq_none unmarked]

theorem isSilent_addressRule : addressRule.IsSilent := by
  intro before text unmarked
  have bracket : '<' ∉ text := unmarked.notMem (by decide)
  rw [addressRule, Run.dropPrefix?_of_notMem bracket]

theorem isSilent_mailRule : mailRule.IsSilent := by
  intro before text unmarked
  have bracket : '<' ∉ text := unmarked.notMem (by decide)
  rw [mailRule, mailAddress?, Run.dropPrefix?_of_notMem bracket]
  rfl

/-- A line break needs two blanks in a row. -/
theorem isSilent_lineBreakRule : lineBreakRule.IsSilent := by
  intro before text unmarked
  have apart : Text.dropPrefix? [' ', ' ', '\n'] text = none := by
    cases found : Text.dropPrefix? [' ', ' ', '\n'] text with
    | none => rfl
    | some rest =>
        rw [Text.dropPrefix?_eq_some_iff.mp found] at unmarked
        exact absurd (unmarked.not_blank_blank (by decide)) (by decide)
  rw [lineBreakRule, Run.startsWith, Run.dropPrefix?_ofText, apart]
  rfl

theorem isSilent_htmlRule : htmlRule.IsSilent := by
  intro before text unmarked
  have bracket : '<' ∉ text := unmarked.notMem (by decide)
  have comment : afterComment? (Run.ofText text) = none := by
    have opening : "<!--".toList = ['<', '!', '-', '-'] := rfl
    rw [afterComment?, opening, Run.dropPrefix?_of_notMem bracket]
    rfl
  have tag : afterTag? (Run.ofText text) = none := by
    rw [afterTag?, Run.dropPrefix?_of_notMem bracket]
    rfl
  rw [htmlRule, comment, tag]
  rfl

theorem isSilent_entityRule : entityRule.IsSilent := by
  intro before text unmarked
  have ampersand : '&' ∉ text := unmarked.notMem (by decide)
  unfold entityRule
  split
  · rename_i equal
    exact absurd (Run.mem_of_ofText_eq_cons equal) ampersand
  · rename_i equal
    exact absurd (Run.mem_of_ofText_eq_cons equal) ampersand
  · rename_i equal
    exact absurd (Run.mem_of_ofText_eq_cons equal) ampersand
  · rfl

theorem isSilent_loneMarkRule : loneMarkRule.IsSilent := by
  intro before text unmarked
  have star : '*' ∉ text := unmarked.notMem (by decide)
  have underscore : '_' ∉ text := unmarked.notMem (by decide)
  rw [loneMarkRule]
  split
  · simp [Run.takeWhile_is_of_notMem star, Run.takeWhile_is_of_notMem underscore]
  · rfl

theorem isSilent_emphasisRule {mark : Char} (isMark : isProseChar mark = false) :
    (emphasisRule mark).IsSilent := by
  intro before text unmarked
  rw [emphasisRule, Run.startsWith_of_notMem (unmarked.notMem isMark)]
  rfl

theorem isSilent_of_mem_inlineRules {definitions : Definitions}
    (mem : rule ∈ inlineRules definitions) : rule.IsSilent := by
  simp only [inlineRules, List.mem_cons, List.not_mem_nil, or_false] at mem
  rcases mem with rfl | rfl | rfl | rfl | rfl | rfl | rfl | rfl | rfl | rfl | rfl | rfl | rfl |
    rfl | rfl | rfl
  · exact isSilent_codeRule
  · exact isSilent_escapeRule
  · exact isSilent_namedLinkRule false definitions
  · exact isSilent_inlineLinkRule false
  · exact isSilent_inlineLinkRule true
  · exact isSilent_namedLinkRule true definitions
  · exact isSilent_shortLinkRule false definitions
  · exact isSilent_shortLinkRule true definitions
  · exact isSilent_addressRule
  · exact isSilent_mailRule
  · exact isSilent_lineBreakRule
  · exact isSilent_htmlRule
  · exact isSilent_entityRule
  · exact isSilent_loneMarkRule
  · exact isSilent_emphasisRule (by decide)
  · exact isSilent_emphasisRule (by decide)

theorem firstFind?_eq_none (silent : rule.IsSilent) (passed : Run) (unmarked : IsUnmarked text) :
    firstFind? rule 0 passed (Run.ofText text) = none := by
  induction text generalizing passed with
  | nil => rfl
  | cons c text ih =>
      have quiet := silent passed.head? (c :: text) unmarked
      rw [Run.ofText_cons] at quiet
      rw [Run.ofText_cons, firstFind?, quiet]
      exact ih (.char c :: passed) unmarked.tail

theorem applyRules_ofText (silent : ∀ rule ∈ rules, rule.IsSilent) (unmarked : IsUnmarked text)
    (steps : Nat) : applyRules steps rules (Run.ofText text) = Run.ofText text := by
  induction steps generalizing rules with
  | zero => rfl
  | succ steps ih =>
      cases rules with
      | nil => rfl
      | cons rule later =>
          rw [applyRules, firstFind?_eq_none (silent rule List.mem_cons_self) [] unmarked]
          exact ih fun other mem => silent other (List.mem_cons_of_mem rule mem)

theorem hasFinds_ofText (text : Text) : hasFinds (Run.ofText text) = false := by
  simp [hasFinds, Run.ofText]

theorem settle_ofText (steps : Nat) (text : Text) :
    settle steps (Run.ofText text) = (Run.ofText text, []) := by
  cases steps with
  | zero => rfl
  | succ steps => rw [settle, hasFinds_ofText, if_neg (by decide)]

theorem searchRun_ofText (silent : ∀ rule ∈ rules, rule.IsSilent) (unmarked : IsUnmarked text) :
    searchRun rules (Run.ofText text) = (Run.ofText text, []) := by
  rw [searchRun, applyRules_ofText silent unmarked, settle_ofText]

theorem searchEach_paragraph_cons (silent : ∀ rule ∈ rules, rule.IsSilent)
    (unmarked : IsUnmarked text) (steps : Nat) (rest : List (Element × Bool)) :
    searchEach rules (steps + 1) ((paragraphOf text, true) :: rest) =
      (paragraphOf text, true) :: searchEach rules steps rest := by
  have here : (if isSearchable (paragraphOf text).lead then searchRun rules (paragraphOf text).lead
      else ((paragraphOf text).lead, [])) = (Run.ofText text, []) := by
    have found : searchRun rules (paragraphOf text).lead = (Run.ofText text, []) :=
      searchRun_ofText silent unmarked
    rw [found]
    exact ite_self _
  have behind : searchRun rules (paragraphOf text).tail = ([], []) :=
    searchRun_ofText silent .nil
  rw [searchEach, here, behind]
  rfl

/-- Paragraphs of texts without marks stay as they are when inline markup is searched in them. -/
theorem searchEach_paragraphs (silent : ∀ rule ∈ rules, rule.IsSilent) {texts : List Text}
    (unmarked : ∀ text ∈ texts, IsUnmarked text) (steps : Nat) :
    searchEach rules steps (texts.map fun text => (paragraphOf text, true)) =
      texts.map fun text => (paragraphOf text, true) := by
  induction texts generalizing steps with
  | nil => cases steps <;> rfl
  | cons text texts ih =>
      cases steps with
      | zero => rfl
      | succ steps =>
          rw [List.map_cons, searchEach_paragraph_cons silent (unmarked text List.mem_cons_self)]
          rw [ih fun other mem => unmarked other (List.mem_cons_of_mem text mem)]

theorem searchTree_documentOf (definitions : Definitions) {texts : List Text}
    (unmarked : ∀ text ∈ texts, IsUnmarked text) :
    searchTree definitions (documentOf texts) = documentOf texts := by
  have silent : ∀ rule ∈ inlineRules definitions, rule.IsSilent :=
    fun rule mem => isSilent_of_mem_inlineRules mem
  rw [searchTree]
  generalize 4 * (documentOf texts).size + 16 = steps
  cases steps with
  | zero => rfl
  | succ steps =>
      have children : (documentOf texts).children.map (fun child => (child, true)) =
          texts.map fun text => (paragraphOf text, true) := List.map_map
      rw [searchChildren, children, searchEach_paragraphs silent unmarked, List.map_map]
      rfl

end ScriptSite.Markdown
