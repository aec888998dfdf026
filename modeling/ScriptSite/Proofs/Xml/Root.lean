import ScriptSite.Xml.Document

/-!
# Roots of documents

What is read from a document is an element (`isElement_of_readDocument`). Reading content gives a
node only where an element is closed; at all other places it goes on or stops, so each step
preserves that nothing but an element is closed (`closesElement_content`).
-/

namespace ScriptSite.Xml

variable {ending : Ending} {declarations : Declarations} {base budget : Nat} {progress : Progress}
  {expand : Text → Text → Progress → Except Stop Progress} {root : Node} {name place text : Text}

def Node.IsElement (node : Node) : Prop :=
  ∃ name attributes children, node = .element name attributes children

theorem exists_of_bind_eq_ok {ε α β : Type} {first : Except ε α} {next : α → Except ε β} {last : β}
    (done : first >>= next = .ok last) : ∃ middle, first = .ok middle ∧ next middle = .ok last := by
  cases first with
  | error fault => cases done
  | ok middle => exact ⟨middle, rfl, done⟩

theorem eq_ok_of_startingAt {α : Type} {result : Except Stop α} {start : Text} {value : α}
    (read : Stop.startingAt start result = .ok value) : result = .ok value := by
  rw [Stop.startingAt.eq_def] at read
  split at read
  · cases read
  · exact read

theorem eq_ok_of_diagnose {α : Type} {origin : Position} {result : Except Stop α} {value : α}
    (read : diagnose origin text result = .ok value) : result = .ok value := by
  cases result with
  | error stop => cases read
  | ok found => exact congrArg Except.ok (Except.ok.inj read)

theorem isElement_of_closeElement
    (closed : closeElement base progress name place = .ok (.inr root)) : root.IsElement := by
  rw [closeElement] at closed
  split at closed
  · cases closed
  · split at closed
    · cases closed
    · split at closed
      · cases closed
      · simp only at closed
        split at closed
        · cases closed
          exact ⟨_, _, _, rfl⟩
        · cases closed

/-- Whether what is closed is an element, if anything is. -/
def ClosesElement (result : Except Stop Outcome) : Prop :=
  ∀ root rest, result = .ok (.closed root rest) → root.IsElement

namespace ClosesElement

theorem error (stop : Stop) : ClosesElement (.error stop) := by
  intro root rest closed
  cases closed

theorem closed (isElement : root.IsElement) (rest : Text) :
    ClosesElement (.ok (.closed root rest)) := by
  intro other rest same
  cases same
  exact isElement

theorem bind {α : Type} {first : Except Stop α} {next : α → Except Stop Outcome}
    (later : ∀ result, first = .ok result → ClosesElement (next result)) :
    ClosesElement (first >>= next) := by
  intro root rest done
  rcases exists_of_bind_eq_ok done with ⟨middle, read, done⟩
  exact later middle read root rest done

end ClosesElement

theorem closesElement_haltStop (place : Text) (halt : Halt) :
    ClosesElement (haltStop ending place halt) := by
  rw [haltStop.eq_def]
  split
  · exact .error _
  · split <;> exact .error _

theorem closesElement_contentEnd (place : Text) :
    ClosesElement (contentEnd ending base progress place) := by
  rw [contentEnd]
  split
  · rw [endStop.eq_def]
    split <;> exact .error _
  · split
    · exact .error _
    · split
      · exact .error _
      · intro root rest closed
        cases closed

/-- Reading content closes nothing but elements: a step goes on, stops, or closes one. -/
theorem closesElement_content (steps : Nat) (text : Text) :
    ClosesElement (content ending declarations base expand steps progress text) := by
  induction steps generalizing progress text with
  | zero =>
      rw [content]
      exact closesElement_contentEnd text
  | succ steps ih =>
      cases text with
      | nil =>
          rw [content]
          exact closesElement_contentEnd []
      | cons c rest =>
          rw [content.eq_def]
          simp only
          split
          -- Markup: only its tags can close anything.
          · split
            · exact closesElement_haltStop _ _
            · apply ClosesElement.bind
              rintro ⟨element, expansion⟩ _
              simp only
              split
              · apply ClosesElement.bind
                intro closed isClosed
                split
                · exact ih _
                · exact .closed (isElement_of_closeElement isClosed) _
              · exact ih _
            · apply ClosesElement.bind
              intro closed isClosed
              split
              · exact ih _
              · exact .closed (isElement_of_closeElement (eq_ok_of_startingAt isClosed)) _
            · exact .error _
            · apply ClosesElement.bind
              rintro ⟨progress, after⟩ _
              exact ih _
            · exact ih _
            · exact ih _
          -- References.
          · split
            · exact closesElement_haltStop _ _
            · exact .error _
            · exact ih _
            · split
              any_goals exact .error _
              · exact ih _
              · apply ClosesElement.bind
                intro progress _
                exact ih _
          -- Ends of lines, and all other text.
          · split
            · exact closesElement_contentEnd _
            · exact ih _
          · exact ih _
          · exact ih _
          · exact .error _
          · split
            · exact ih _
            · exact .error _

theorem isElement_of_rootElement {rest : Text}
    (read : rootElement ending declarations budget text = .ok (root, rest)) : root.IsElement := by
  rcases exists_of_bind_eq_ok read with ⟨outcome, isOutcome, read⟩
  cases outcome with
  | «open» progress => cases ending <;> cases read
  | closed node behind =>
      cases read
      exact closesElement_content _ _ _ _ isOutcome

theorem isElement_of_readRest {input : Input} {standsAlone : Bool}
    (read : readRest input standsAlone budget = .ok root) : root.IsElement := by
  rcases exists_of_bind_eq_ok read with ⟨⟨declarations, text⟩, _, read⟩
  rcases exists_of_bind_eq_ok read with ⟨⟨found, rest⟩, isRoot, read⟩
  rcases exists_of_bind_eq_ok read with ⟨_, _, read⟩
  cases read
  exact isElement_of_rootElement isRoot

theorem isElement_of_readDeclared {fixed : Bool} {encoding : Encoding} {origin : Position}
    {bytes : Bytes} {input : Input} {declared rest : Text}
    (read : readDeclared fixed encoding origin bytes input budget declared rest = .ok root) :
    root.IsElement := by
  rcases exists_of_bind_eq_ok read with ⟨found, _, read⟩
  split at read
  · exact isElement_of_readRest (eq_ok_of_diagnose read)
  · split at read
    · exact isElement_of_readRest (eq_ok_of_diagnose read)
    · split at read
      · cases read
      · split at read
        · exact isElement_of_readRest (eq_ok_of_diagnose read)
        · exact isElement_of_readRest (eq_ok_of_diagnose read)

/-- The root of a document is an element. -/
theorem isElement_of_readDocument {fixed : Bool} {bytes : Bytes}
    (read : readDocument fixed bytes = .ok root) : root.IsElement := by
  rw [readDocument] at read
  simp only at read
  split at read
  · exact isElement_of_readDeclared read
  · exact isElement_of_readRest (eq_ok_of_diagnose read)

end ScriptSite.Xml
