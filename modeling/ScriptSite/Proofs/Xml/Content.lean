import ScriptSite.Proofs.Xml.Tag

/-!
# Reading content

Where nothing is declared, reading takes a text in front of the rest of a document from one state to
another (`Passes`), whatever number of steps is allowed as long as they are enough for that text.
One lemma for each piece of the grammar says to which; together they give that content adds its
elements, side by side and under their names, to the element that it stands in
(`IsContent.passes`).
-/

namespace ScriptSite.Xml

variable {written text first second third rest after tag inner blanks body left : Text} {c : Char}
  {progress before middle behind : Progress} {parent element : OpenElement}
  {outer : List OpenElement} {pending : Text} {expansion : Expansion} {nodes : List Node}
  {found : Scan.Reference} {expand : Text → Text → Progress → Except Stop Progress}

/-- The name of a node that is an element. -/
def Node.name? : Node → Option Text
  | .text _ => none
  | .element name _ _ => some name

/-- An element with more nodes behind its children. -/
def OpenElement.adding (element : OpenElement) (nodes : List Node) : OpenElement :=
  { element with children := nodes.reverse ++ element.children }

/-- The node that pending text becomes, if there is any. -/
def pendingNodes (pending : Text) : List Node :=
  if pending.isEmpty then [] else [.text pending.reverse]

@[simp]
theorem OpenElement.adding_adding (element : OpenElement) (nodes more : List Node) :
    (element.adding nodes).adding more = element.adding (nodes ++ more) := by
  simp [OpenElement.adding]

@[simp]
theorem OpenElement.adding_bindings (element : OpenElement) (nodes : List Node) :
    (element.adding nodes).bindings = element.bindings := rfl

theorem filterMap_name?_pendingNodes (pending : Text) :
    (pendingNodes pending).filterMap Node.name? = [] := by
  rw [pendingNodes]
  split <;> rfl

theorem flushed_eq (progress : Progress) (children : List Node) :
    progress.flushed children = (pendingNodes progress.pending).reverse ++ children := by
  rw [Progress.flushed, pendingNodes]
  split <;> rfl

theorem push_eq (parent element : OpenElement) (outer : List OpenElement) (pending : Text)
    (expansion : Expansion) :
    Progress.push ⟨parent :: outer, pending, expansion⟩ element =
      ⟨element :: parent.adding (pendingNodes pending) :: outer, [], expansion⟩ := by
  simp only [Progress.push, flushed_eq, OpenElement.adding]

theorem addNode_eq (parent : OpenElement) (outer : List OpenElement) (pending : Text)
    (expansion : Expansion) (node : Node) :
    Progress.addNode ⟨parent :: outer, pending, expansion⟩ node =
      ⟨parent.adding (pendingNodes pending ++ [node]) :: outer, [], expansion⟩ := by
  simp [Progress.addNode, flushed_eq, OpenElement.adding]

/-- Closing an element adds it to the one around it. -/
theorem closeElement_eq (element parent : OpenElement) (outer : List OpenElement) (pending : Text)
    (expansion : Expansion) (place : Text) :
    closeElement 0 ⟨element :: parent :: outer, pending, expansion⟩ element.writtenName place =
      .ok (.inl ⟨parent.adding [.element element.name element.attributes
        (element.children.reverse ++ pendingNodes pending)] :: outer, [], expansion⟩) := by
  simp only [closeElement, Nat.not_lt_zero, if_false, ne_eq, not_true, List.isEmpty_cons,
    Bool.false_eq_true, flushed_eq, addNode_eq, List.reverse_append, List.reverse_reverse]
  rfl

/-- How reading goes on behind the markup that a bracket in front of a text begins. -/
def afterMarkup (expand : Text → Text → Progress → Except Stop Progress) (steps : Nat)
    (progress : Progress) (written : Text) : Scan.Markup × Text → Except Stop Outcome
  | (.startTag name attributes closed, after) => do
    let (element, expansion) ← Stop.startingAt ('<' :: written) (openElement {} progress.bindings
      progress.expansion name attributes)
    let inside := { progress.push element with expansion }
    if closed then
      match ← closeElement 0 inside name ('<' :: written) with
      | .inl progress => content .complete {} 0 expand steps progress after
      | .inr root => return .closed root after
    else content .complete {} 0 expand steps inside after
  | (.endTag name, after) => do
    match ← Stop.startingAt ('<' :: written) (closeElement 0 progress name (written.drop 1)) with
    | .inl progress => content .complete {} 0 expand steps progress after
    | .inr root => return .closed root after
  | (.declaration, _) => Stop.atPlace .misplacedDeclaration ('<' :: written)
  | (.dataSection, after) => do
    let (progress, after) ← dataSection .complete progress after
    content .complete {} 0 expand steps progress after
  | (.comment, after) | (.instruction, after) => content .complete {} 0 expand steps progress after

theorem content_markup {markup : Scan.Markup × Text} (scanned : Scan.markup written = .ok markup)
    (steps : Nat) (progress : Progress) :
    content .complete {} 0 expand (steps + 1) progress ('<' :: written) =
      afterMarkup expand steps progress written markup := by
  rw [content, scanned]
  rcases markup with ⟨_ | _ | _ | _ | _ | _, after⟩ <;> rfl

/-- Whether reading a text in front of the rest of the document takes one state to another. -/
def Passes (expand : Text → Text → Progress → Except Stop Progress) (before : Progress)
    (written : Text) (after : Progress) (rest : Text) : Prop :=
  ∀ steps, written.length ≤ steps → ∃ more, steps ≤ more + written.length ∧
    content .complete {} 0 expand steps before (written ++ rest) =
      content .complete {} 0 expand more after rest

namespace Passes

theorem refl (progress : Progress) (rest : Text) : Passes expand progress [] progress rest :=
  fun steps _ => ⟨steps, Nat.le_add_right steps _, rfl⟩

theorem trans (firstPasses : Passes expand before first middle (second ++ rest))
    (secondPasses : Passes expand middle second behind rest) :
    Passes expand before (first ++ second) behind rest := by
  intro steps enough
  rw [List.length_append] at enough
  rcases firstPasses steps (by omega) with ⟨between, most, firstEq⟩
  rcases secondPasses between (by omega) with ⟨more, rest, secondEq⟩
  refine ⟨more, by rw [List.length_append]; omega, ?_⟩
  rw [List.append_assoc, firstEq, secondEq]

/-- A text that is read in one step. -/
theorem of_step (step : ∀ steps, content .complete {} 0 expand (steps + 1) before
      (c :: (written ++ rest)) = content .complete {} 0 expand steps behind rest) :
    Passes expand before (c :: written) behind rest := by
  intro steps enough
  rcases steps with _ | steps
  · simp at enough
  · exact ⟨steps, by rw [List.length_cons]; omega, step steps⟩

end Passes

theorem passes_char (allowed : isAllowed c = true) (inside : c ≠ '<' ∧ c ≠ '&' ∧ c ≠ '\r')
    (noSectionEnd : c = ']' → ¬[']', '>'] <+: rest) (progress : Progress) :
    Passes expand progress [c] (progress.addChar c) rest := by
  refine .of_step fun steps => ?_
  rw [List.nil_append, content.eq_9, if_pos allowed]
  · exact inside.1
  · exact inside.2.1
  · exact inside.2.2
  · exact fun same _ => inside.2.2 same
  · exact fun _ same _ => inside.2.2 same
  · rintro more same rfl
    exact noSectionEnd same ⟨more, rfl⟩

theorem passes_lineReturn (nonempty : rest ≠ []) (alone : rest.head? ≠ some '\n')
    (progress : Progress) : Passes expand progress ['\r'] (progress.addChar '\n') rest := by
  refine .of_step fun steps => ?_
  rw [List.nil_append, content.eq_7]
  · exact nonempty
  · rintro more rfl
    exact alone rfl

theorem passes_lineEnd (progress : Progress) :
    Passes expand progress ['\r', '\n'] (progress.addChar '\n') rest :=
  .of_step fun _ => rfl

theorem passes_reference {reference : Text} (refers : RefersTo reference c) (progress : Progress) :
    Passes expand progress ('&' :: reference) (progress.addChar c) rest := by
  rcases Scan.reference_append refers rest with ⟨found, isReference, stands⟩
  refine .of_step fun steps => ?_
  rw [content, isReference]
  cases found with
  | entity name => simp only [referent_of_lookup stands]
  | character d =>
      rw [Scan.Reference.char?] at stands
      subst stands
      rfl

/-- Text between tags is pending behind it. -/
theorem passes_text (spells : SpellsText written text) (apart : rest.head? = some '<') :
    Passes expand progress written { progress with pending := text.reverse ++ progress.pending }
      rest := by
  rcases List.head?_eq_some_iff.mp apart with ⟨tail, rfl⟩
  induction spells generalizing progress with
  | nil => exact .refl progress _
  | @char c written text allowed inside noSectionEnd spells ih =>
      have noSectionEndHere : c = ']' → ¬[']', '>'] <+: written ++ '<' :: tail := by
        intro same begins
        refine noSectionEnd same ?_
        rcases written with _ | ⟨d, _ | ⟨e, written⟩⟩
        · simp at begins
        · simp at begins
        · simpa using begins
      have both := (passes_char allowed inside noSectionEndHere progress).trans ih
      simpa [Progress.addChar] using both
  | @lineReturn written text alone spells ih =>
      have aloneHere : (written ++ '<' :: tail).head? ≠ some '\n' := by
        cases written with
        | nil => simp
        | cons d written => simpa using alone
      have both := (passes_lineReturn (by simp) aloneHere progress).trans ih
      simpa [Progress.addChar] using both
  | lineEnd spells ih =>
      have both := (passes_lineEnd progress).trans ih
      simpa [Progress.addChar] using both
  | reference refers spells ih =>
      have both := (passes_reference refers progress).trans ih
      simpa [Progress.addChar] using both

/-- Comments leave nothing behind. -/
theorem passes_comment (allowed : IsAllowedText body) (single : ¬['-', '-'] <:+: body ++ ['-'])
    (progress : Progress) :
    Passes expand progress ('<' :: '!' :: '-' :: '-' :: (body ++ ['-', '-', '>'])) progress
      rest := by
  refine .of_step fun steps => ?_
  have scanned := Scan.markup_comment allowed single rest
  simp only [List.cons_append, List.append_assoc, List.nil_append] at scanned ⊢
  rw [content_markup scanned, afterMarkup]

/-- Instructions leave nothing behind. -/
theorem passes_instruction {target : Text} (isName : IsName target)
    (free : target.map Char.toLower ≠ ['x', 'm', 'l']) (apart : ∀ c ∈ body.head?, isSpace c = true)
    (allowed : IsAllowedText body) (unended : ¬['?', '>'] <:+: body) (progress : Progress) :
    Passes expand progress ('<' :: '?' :: (target ++ (body ++ ['?', '>']))) progress rest := by
  refine .of_step fun steps => ?_
  have scanned := Scan.markup_instruction isName free apart allowed unended rest
  simp only [List.cons_append, List.append_assoc, List.nil_append] at scanned ⊢
  rw [content_markup scanned, afterMarkup]

/-- A section of character data is pending text behind it. -/
theorem dataSection_append (allowed : IsAllowedText body) (unended : ¬[']', ']', '>'] <:+: body)
    (progress : Progress) (rest : Text) :
    dataSection .complete progress (body ++ ']' :: ']' :: '>' :: rest) =
      .ok ({ progress with
        pending := (Text.normalizeNewlines body).reverse ++ progress.pending }, rest) := by
  induction body using Text.normalizeNewlines.induct generalizing progress with
  | case1 => rfl
  | case2 body ih =>
      have later : ¬[']', ']', '>'] <:+: body := fun inside =>
        unended (List.infix_cons (List.infix_cons inside))
      rw [List.cons_append, List.cons_append, dataSection,
        ih (fun c mem => allowed c (by simp [mem])) later, Text.normalizeNewlines]
      simp [Progress.addChar]
  | case3 c body single ih =>
      have later : ¬[']', ']', '>'] <:+: body := fun inside => unended (List.infix_cons inside)
      have more := ih (fun d mem => allowed d (by simp [mem])) later
      have long : 2 < (c :: (body ++ ']' :: ']' :: '>' :: rest)).length := by
        simp only [List.length_cons, List.length_append]
        omega
      rw [List.cons_append, dataSection.eq_4, if_neg, Text.normalizeNewlines]
      · by_cases isReturn : c = '\r'
        · rw [if_pos isReturn, more, if_pos isReturn]
          simp [Progress.addChar]
        · rw [if_neg isReturn, if_pos (allowed c (by simp)), more, if_neg isReturn]
          simp [Progress.addChar]
      · exact single
      · rintro ⟨_, equal | equal | equal⟩ <;>
          · rw [equal] at long
            simp at long
      · rintro tail rfl equal
        rcases body with _ | ⟨d, _ | ⟨e, body⟩⟩
        · simp at equal
        · simp at equal
        · simp only [List.cons_append, List.cons.injEq] at equal
          exact unended ⟨[], body, by simp [equal.1, equal.2.1]⟩
      · rintro tail rfl equal
        cases body with
        | nil => simp at equal
        | cons d body =>
            simp only [List.cons_append, List.cons.injEq] at equal
            exact single body rfl (by rw [equal.1])

theorem passes_dataSection (allowed : IsAllowedText body) (unended : ¬[']', ']', '>'] <:+: body)
    (progress : Progress) :
    Passes expand progress
      ('<' :: '!' :: '[' :: 'C' :: 'D' :: 'A' :: 'T' :: 'A' :: '[' :: (body ++ [']', ']', '>']))
      { progress with pending := (Text.normalizeNewlines body).reverse ++ progress.pending }
      rest := by
  refine .of_step fun steps => ?_
  have read := dataSection_append allowed unended progress rest
  simp only [List.cons_append, List.append_assoc, List.nil_append] at read ⊢
  rw [content_markup (Scan.markup_dataSection _), afterMarkup]
  simp only [read, bind, Except.bind]

/-- A tag opens its element. -/
theorem passes_startTag (spells : SpellsTag parent.bindings tag element) :
    Passes expand ⟨parent :: outer, pending, expansion⟩ ('<' :: (tag ++ ['>']))
      ⟨element :: parent.adding (pendingNodes pending) :: outer, [], expansion⟩ rest := by
  rcases Scan.markup_startTag spells false rest with
    ⟨scanned, attributes, isMarkup, spellsAll, opens⟩
  have opened : openElement {} parent.bindings expansion element.writtenName scanned =
      .ok (element, expansion) := openElement_of_opens opens spellsAll
  refine .of_step fun steps => ?_
  rw [← push_eq]
  rw [Scan.tagMark, if_neg (by simp)] at isMarkup
  rw [List.append_assoc, content_markup isMarkup, afterMarkup]
  simp only [Progress.bindings, opened, Stop.startingAt, bind, Except.bind]
  rfl

/-- A tag that closes its element adds it. -/
theorem passes_emptyTag (spells : SpellsTag parent.bindings tag element) :
    Passes expand ⟨parent :: outer, pending, expansion⟩ ('<' :: (tag ++ ['/', '>']))
      ⟨parent.adding (pendingNodes pending ++
        [.element element.name element.attributes []]) :: outer, [], expansion⟩ rest := by
  rcases Scan.markup_startTag spells true rest with
    ⟨scanned, attributes, isMarkup, spellsAll, opens⟩
  have opened : openElement {} parent.bindings expansion element.writtenName scanned =
      .ok (element, expansion) := openElement_of_opens opens spellsAll
  refine .of_step fun steps => ?_
  rw [Scan.tagMark, if_pos rfl] at isMarkup
  rw [List.append_assoc, content_markup isMarkup, afterMarkup]
  have closed := closeElement_eq element (parent.adding (pendingNodes pending)) outer [] expansion
    ('<' :: (tag ++ (['/', '>'] ++ rest)))
  rw [opens.children_eq, OpenElement.adding_adding] at closed
  simp only [Progress.bindings, opened, Stop.startingAt, bind, Except.bind, push_eq, closed,
    if_true]
  rfl

/-- The tag that ends an element adds it to the one around it. -/
theorem passes_endTag (isName : IsQualifiedName element.writtenName) (blank : IsSpaces blanks) :
    Passes expand ⟨element :: parent :: outer, pending, expansion⟩
      ('<' :: '/' :: (element.writtenName ++ (blanks ++ ['>'])))
      ⟨parent.adding [.element element.name element.attributes
        (element.children.reverse ++ pendingNodes pending)] :: outer, [], expansion⟩ rest := by
  have scanned := Scan.markup_endTag isName blank rest
  refine .of_step fun steps => ?_
  simp only [List.cons_append, List.append_assoc, List.nil_append] at scanned ⊢
  rw [content_markup scanned, afterMarkup]
  simp only [closeElement_eq, Stop.startingAt, bind, Except.bind]

theorem SpellsTag.isQualifiedName_and_childless {outside : Bindings}
    (spells : SpellsTag outside tag element) :
    IsQualifiedName element.writtenName ∧ element.children = [] := by
  cases spells with
  | intro isName _ _ opens => exact ⟨isName, opens.children_eq⟩

/-- An element is added with the nodes that its content adds to it. -/
theorem passes_element (spells : SpellsTag parent.bindings tag element) (blank : IsSpaces blanks)
    (innerPasses : Passes expand
      ⟨element :: parent.adding (pendingNodes pending) :: outer, [], expansion⟩ inner
      ⟨element.adding nodes :: parent.adding (pendingNodes pending) :: outer, left, expansion⟩
      ('<' :: '/' :: (element.writtenName ++ (blanks ++ ['>'])) ++ rest)) :
    Passes expand ⟨parent :: outer, pending, expansion⟩
      ('<' :: (tag ++ '>' :: (inner ++ '<' :: '/' :: (element.writtenName ++ (blanks ++ ['>'])))))
      ⟨parent.adding (pendingNodes pending ++
        [.element element.name element.attributes (nodes ++ pendingNodes left)]) :: outer, [],
        expansion⟩ rest := by
  rcases spells.isQualifiedName_and_childless with ⟨isName, childless⟩
  have ends : Passes expand
      ⟨element.adding nodes :: parent.adding (pendingNodes pending) :: outer, left, expansion⟩
      ('<' :: '/' :: (element.writtenName ++ (blanks ++ ['>'])))
      ⟨parent.adding (pendingNodes pending ++
        [.element element.name element.attributes (nodes ++ pendingNodes left)]) :: outer, [],
        expansion⟩ rest := by
    have closed : Passes expand
        ⟨element.adding nodes :: parent.adding (pendingNodes pending) :: outer, left, expansion⟩
        ('<' :: '/' :: ((element.adding nodes).writtenName ++ (blanks ++ ['>']))) _ rest :=
      passes_endTag isName blank
    simpa [OpenElement.adding, childless] using closed
  simpa using (passes_startTag spells).trans (innerPasses.trans ends)

/-- Content adds its elements to the one that it stands in. -/
theorem IsContent.passes {bindings : Bindings} {names : List Text}
    (isContent : IsContent bindings names written) (inside : parent.bindings = bindings)
    (apart : rest.head? = some '<') (outer : List OpenElement) (pending : Text)
    (expansion : Expansion) :
    ∃ nodes left, nodes.filterMap Node.name? = names ∧
      Passes expand ⟨parent :: outer, pending, expansion⟩ written
        ⟨parent.adding nodes :: outer, left, expansion⟩ rest := by
  induction isContent generalizing parent outer pending rest with
  | nil => exact ⟨[], pending, rfl, .refl _ rest⟩
  | @text bindings names written text more spells apartInside _ ih =>
      have apartHere : (more ++ rest).head? = some '<' := by
        cases more with
        | nil => exact apart
        | cons c more => simpa using apartInside c (by simp)
      rcases ih inside apart outer (text.reverse ++ pending) with ⟨nodes, left, named, passes⟩
      exact ⟨nodes, left, named, (passes_text spells apartHere).trans passes⟩
  | @comment bindings names body more allowed single _ ih =>
      rcases ih inside apart outer pending with ⟨nodes, left, named, passes⟩
      refine ⟨nodes, left, named, ?_⟩
      simpa using (passes_comment allowed single _).trans passes
  | @instruction bindings names target body more isName free apartBody allowed unended _ ih =>
      rcases ih inside apart outer pending with ⟨nodes, left, named, passes⟩
      refine ⟨nodes, left, named, ?_⟩
      simpa using (passes_instruction isName free apartBody allowed unended _).trans passes
  | @dataSection bindings names body more allowed unended _ ih =>
      rcases ih inside apart outer ((Text.normalizeNewlines body).reverse ++ pending) with
        ⟨nodes, left, named, passes⟩
      refine ⟨nodes, left, named, ?_⟩
      simpa using (passes_dataSection allowed unended _).trans passes
  | @emptyElement bindings names tag more element spells _ ih =>
      subst inside
      have added : Passes expand ⟨parent :: outer, pending, expansion⟩ _ _ (more ++ rest) :=
        passes_emptyTag spells
      rcases ih (OpenElement.adding_bindings _ _) apart outer [] with ⟨nodes, left, named, passes⟩
      refine ⟨_, left, ?_, by simpa using added.trans passes⟩
      simp [named, filterMap_name?_pendingNodes, Node.name?]
  | @element bindings names innerNames tag inner blanks more element spells _ blank _ innerIh ih =>
      subst inside
      let around := parent.adding (pendingNodes pending) :: outer
      let ending := '<' :: '/' :: (element.writtenName ++ (blanks ++ ['>'])) ++ (more ++ rest)
      have innerPasses : ∃ nodes left, nodes.filterMap Node.name? = innerNames ∧
          Passes expand ⟨element :: around, [], expansion⟩ inner
            ⟨element.adding nodes :: around, left, expansion⟩ ending := innerIh rfl rfl around []
      rcases innerPasses with ⟨innerNodes, innerLeft, _, innerPasses⟩
      have added := passes_element spells blank innerPasses
      rcases ih (OpenElement.adding_bindings _ _) apart outer [] with ⟨nodes, left, named, passes⟩
      refine ⟨_, left, ?_, by simpa using added.trans passes⟩
      simp [named, filterMap_name?_pendingNodes, Node.name?]

end ScriptSite.Xml
