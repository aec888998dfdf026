import ScriptSite.Proofs.Xml.Scan

/-!
# What a tag opens

Where nothing is declared, the value of an attribute is the text that it spells, and reading it uses
up nothing of what entities may give. The element that a tag opens is then the one that the grammar
says (`openElement_of_opens`).
-/

namespace ScriptSite.Xml

variable {written value behind rest after name : Text} {c quote : Char} {expansion : Expansion}
  {outside inside : Bindings} {attributes kept full : List (Text × Text)} {element : OpenElement}
  {scanned : List Scan.Attribute} {found : Scan.Reference}
  {expand : Text → Text → PartialValue → Except Stop PartialValue}

/-- Where nothing is declared, only the predefined entities can be referred to. -/
theorem referent_of_lookup (known : predefined.lookup name = some c) (opened : List Text) :
    Declarations.referent {} opened name = .character c := by
  rw [Declarations.referent, known]

theorem addSpace_false (partialValue : PartialValue) :
    partialValue.addSpace false = { partialValue with done := ' ' :: partialValue.done } := by
  simp [PartialValue.addSpace]

theorem valueChars_reference (isReference : Scan.reference rest = .ok (found, after))
    (stands : found.char? = some c) (steps : Nat) (partialValue : PartialValue) :
    valueChars {} false behind expand (steps + 1) partialValue ('&' :: rest) =
      valueChars {} false behind expand steps
        { partialValue with done := c :: partialValue.done } after := by
  rw [valueChars, if_neg (by decide), if_neg (by simp), if_neg (by decide), if_neg (by decide),
    isReference]
  cases found with
  | entity name =>
      simp only [referent_of_lookup stands]
  | character d =>
      rw [Scan.Reference.char?] at stands
      subst stands
      by_cases space : c = ' '
      · simp only [space, if_true, addSpace_false]
      · simp only [if_neg space]

/-- Where nothing is declared, the characters of a value are those that it spells. -/
theorem valueChars_of_spells (spells : SpellsValue quote written value) {steps : Nat}
    (enough : written.length ≤ steps) (done : Text) :
    valueChars {} false behind expand steps ⟨done, expansion⟩ written =
      .ok ⟨value.reverse ++ done, expansion⟩ := by
  induction spells generalizing steps done with
  | nil => cases steps <;> rfl
  | @char c written value allowed inside spells ih =>
      rcases steps with _ | steps
      · simp at enough
      have noReturn : ¬(c = '\r' ∧ written.head? = some '\n') := by
        rintro ⟨rfl, _⟩
        exact absurd inside.2.2.2 (by decide)
      rw [valueChars, if_neg inside.2.1, if_neg noReturn, if_neg (by simp [inside.2.2.2]),
        if_pos inside.2.2.1, ih (Nat.le_of_succ_le_succ enough)]
      simp
  | @space c written value space alone spells ih =>
      rcases steps with _ | steps
      · simp at enough
      have noBracket : c ≠ '<' := by
        rintro rfl
        exact absurd space (by decide)
      rw [valueChars, if_neg noBracket, if_neg (fun both => alone both.1 both.2), if_pos space,
        addSpace_false, ih (Nat.le_of_succ_le_succ enough)]
      simp
  | @lineEnd written value spells ih =>
      rcases steps with _ | steps
      · simp at enough
      simp only [List.length_cons] at enough
      rw [valueChars, if_neg (by decide), if_pos (by simp), addSpace_false, List.drop_one,
        List.tail_cons, ih (by omega)]
      simp
  | @reference reference written value c refers spells ih =>
      rcases steps with _ | steps
      · simp at enough
      simp only [List.length_cons, List.length_append] at enough
      rcases Scan.reference_append refers written with ⟨found, isReference, stands⟩
      rw [valueChars_reference isReference stands, ih (by omega)]
      simp

theorem attributeText_of_spells (spells : SpellsValue quote written value) (behind : Text) :
    attributeText {} true expansion written behind = .ok (value, expansion) := by
  have read : expandValue {} false 1 behind { expansion } written =
      .ok ⟨value.reverse ++ [], expansion⟩ :=
    valueChars_of_spells spells (Nat.le_succ _) []
  simp only [attributeText, Bool.not_true, List.length_nil, Nat.zero_add, read, bind, Except.bind]
  simp
  rfl

/-- A written attribute is added with its value, unless there is one of its name already. -/
theorem addWritten_of_spells {first : Scan.Attribute} {named : Text × Text}
    (spells : first.Spells named) {tag : TagProgress} (fresh : named.1 ∉ tag.seen) (name : Text) :
    addWritten {} name tag first = tag.add named.1 named.2 := by
  rcases spells with ⟨nameEq, quote, _, spellsValue⟩
  have declared : Declarations.attribute? {} name first.name = none := rfl
  have read : attributeText {} true tag.expansion first.value first.behind =
      .ok (named.2, tag.expansion) := attributeText_of_spells spellsValue first.behind
  rw [addWritten, nameEq, if_neg fresh, ← nameEq]
  simp only [declared, Option.map_none, Option.getD_none, read, bind, Except.bind]

/-- Names that differ from each other and from those before stay so when one of them has come. -/
theorem notMem_cons_of_nodup {first : Text} {names : List Text}
    (notMem : first ∉ attributes.map Prod.fst) (fresh : ∀ named ∈ attributes, named.1 ∉ names) :
    ∀ named ∈ attributes, named.1 ∉ first :: names := by
  intro named mem
  rw [List.mem_cons, not_or]
  exact ⟨fun same => notMem (List.mem_map.mpr ⟨named, mem, same⟩), fresh named mem⟩

/-- The attributes of a tag leave the bindings inside of it and the attributes that bind no
prefix. -/
theorem foldlM_addWritten {tagName : Text} (scope : Scope outside attributes inside kept)
    (spells : List.Forall₂ Scan.Attribute.Spells scanned attributes) {seen : List Text}
    (nodup : (attributes.map Prod.fst).Nodup) (fresh : ∀ named ∈ attributes, named.1 ∉ seen)
    (done : List (Text × Text)) :
    ∃ later, scanned.foldlM (addWritten {} tagName) ⟨seen, done, outside, expansion⟩ =
      .ok ⟨later, kept.reverse ++ done, inside, expansion⟩ := by
  induction scope generalizing scanned seen done with
  | nil bindings =>
      cases spells with
      | nil => exact ⟨seen, rfl⟩
  | @bind outside between inside name label value rest kept binds bound scope ih =>
      cases spells with
      | @cons first _ more _ spellsFirst spellsMore =>
          rw [List.map_cons, List.nodup_cons] at nodup
          rcases List.forall_mem_cons.mp fresh with ⟨freshFirst, freshMore⟩
          have added : addWritten {} tagName ⟨seen, done, outside, expansion⟩ first =
              .ok ⟨name :: seen, done, between, expansion⟩ := by
            rw [addWritten_of_spells spellsFirst freshFirst]
            simp only [TagProgress.add, binds, bound]
          rcases ih spellsMore nodup.2 (notMem_cons_of_nodup nodup.1 freshMore) done with
            ⟨later, folded⟩
          refine ⟨later, ?_⟩
          rw [List.foldlM_cons, added]
          exact folded
  | @keep outside inside name value rest kept free scope ih =>
      cases spells with
      | @cons first _ more _ spellsFirst spellsMore =>
          rw [List.map_cons, List.nodup_cons] at nodup
          rcases List.forall_mem_cons.mp fresh with ⟨freshFirst, freshMore⟩
          have added : addWritten {} tagName ⟨seen, done, outside, expansion⟩ first =
              .ok ⟨name :: seen, (name, value) :: done, outside, expansion⟩ := by
            rw [addWritten_of_spells spellsFirst freshFirst]
            simp only [TagProgress.add, free]
          rcases ih spellsMore nodup.2 (notMem_cons_of_nodup nodup.1 freshMore)
            ((name, value) :: done) with ⟨later, folded⟩
          refine ⟨later, ?_⟩
          rw [List.foldlM_cons, added, List.reverse_cons, List.append_assoc, List.singleton_append]
          exact folded

theorem nameAttributes_of_forall₂
    (named : List.Forall₂ (fun written full : Text × Text =>
      inside.attributeName written.1 = .ok full.1 ∧ written.2 = full.2) kept full)
    {names : List Text} (nodup : (full.map Prod.fst).Nodup)
    (fresh : ∀ named ∈ full, named.1 ∉ names) :
    nameAttributes inside names kept = .ok full := by
  induction named generalizing names with
  | nil => rfl
  | @cons written first kept full isNamed others ih =>
      rcases List.forall_mem_cons.mp fresh with ⟨freshFirst, freshOthers⟩
      rw [List.map_cons, List.nodup_cons] at nodup
      have more := ih nodup.2 (notMem_cons_of_nodup nodup.1 freshOthers)
      rw [nameAttributes, isNamed.1]
      simp only [if_neg freshFirst, more, isNamed.2, bind, Except.bind]
      rfl

/-- A tag opens the element that the grammar says. -/
theorem openElement_of_opens (opens : Opens outside attributes element)
    (spells : List.Forall₂ Scan.Attribute.Spells scanned attributes) :
    openElement {} outside expansion element.writtenName scanned = .ok (element, expansion) := by
  rcases opens.named with ⟨kept, scope, named⟩
  have folds : ∃ seen, scanned.foldlM (addWritten {} element.writtenName)
      ⟨[], [], outside, expansion⟩ = .ok ⟨seen, kept.reverse ++ [], element.bindings, expansion⟩ :=
    foldlM_addWritten scope spells opens.nodup_written (by simp) []
  have renamed : nameAttributes element.bindings [] kept = .ok element.attributes :=
    nameAttributes_of_forall₂ named opens.nodup (by simp)
  rcases folds with ⟨seen, folded⟩
  rw [List.append_nil] at folded
  simp only [openElement, folded, bind, Except.bind, List.filter_nil, List.foldlM_nil, pure,
    Except.pure, List.reverse_reverse, renamed, opens.name_eq, ← opens.children_eq]

theorem split?_of_isName (isName : IsName name) : Bindings.split? name = none := by
  cases found : Bindings.split? name with
  | none => rfl
  | some parts =>
      have equal := Text.splitFirst?_eq_some found
      have mem : ':' ∈ name := equal ▸ by simp
      exact absurd (isName.isNameChar ':' mem) (by decide)

theorem elementName_initial (isName : IsName name) :
    Bindings.initial.elementName name = .ok name := by
  have unbound : Bindings.initial.lookup [] = none := rfl
  rw [Bindings.elementName, split?_of_isName isName, unbound]

theorem attributeName_of_isName (bindings : Bindings) (isName : IsName name) :
    bindings.attributeName name = .ok name := by
  rw [Bindings.attributeName, split?_of_isName isName]

theorem bound?_of_isName (isName : IsName name) (free : name ≠ Bindings.bindingLabel) :
    Bindings.bound? name = none := by
  rw [Bindings.bound?, if_neg free, split?_of_isName isName]

theorem scope_of_isName (bindings : Bindings)
    (areNames : ∀ named ∈ attributes, IsName named.1 ∧ named.1 ≠ Bindings.bindingLabel) :
    Scope bindings attributes bindings attributes := by
  induction attributes with
  | nil => exact .nil bindings
  | cons first attributes ih =>
      rcases List.forall_mem_cons.mp areNames with ⟨⟨isName, free⟩, later⟩
      exact .keep (bound?_of_isName isName free) (ih later)

/-- A tag in which no name has a prefix and nothing is bound opens the element of its name. -/
theorem spellsTag_of_isName (isName : IsName name) (spells : SpellsAttributes written attributes)
    (areNames : ∀ named ∈ attributes, IsName named.1 ∧ named.1 ≠ Bindings.bindingLabel)
    (nodup : (attributes.map Prod.fst).Nodup) :
    SpellsTag Bindings.initial (name ++ written)
      { writtenName := name, name, attributes, bindings := Bindings.initial } := by
  have scope := scope_of_isName Bindings.initial areNames
  have named : List.Forall₂ (fun written full : Text × Text =>
      Bindings.initial.attributeName written.1 = .ok full.1 ∧ written.2 = full.2)
      attributes attributes :=
    List.forall₂_same.mpr fun named mem =>
      ⟨attributeName_of_isName Bindings.initial (areNames named mem).1, rfl⟩
  have opens : Opens Bindings.initial attributes
      { writtenName := name, name, attributes, bindings := Bindings.initial } :=
    ⟨nodup, ⟨attributes, scope, named⟩, nodup, elementName_initial isName, rfl⟩
  have spellsTag := SpellsTag.intro (.plain isName) spells .nil opens
  rwa [List.append_nil] at spellsTag

end ScriptSite.Xml
