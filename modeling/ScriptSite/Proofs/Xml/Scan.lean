import ScriptSite.Proofs.Xml.Name

/-!
# Scanning what the grammar makes

A scan of a piece of markup finds all of it and stops behind it. A tag gives its attributes as they
are written (`markup_startTag`); comments, instructions and sections of character data go up to the
first place where they can end, and what is inside of them holds no such place.
-/

namespace ScriptSite.Xml.Scan

variable {name written value reference tag body target blanks rest text : Text} {c quote : Char}
  {outside : Bindings} {element : OpenElement} {attributes : List (Text × Text)}

/-- Whether a character stands for itself in the value of an attribute. -/
structure IsPlain (quote c : Char) : Prop where
  allowed : isAllowed c = true
  ne_quote : c ≠ quote
  ne_bracket : c ≠ '<'
  ne_ampersand : c ≠ '&'

theorem attributeValue_cons_of_plain (plain : IsPlain quote c)
    (scanned : attributeValue quote text = .ok (written, rest)) :
    attributeValue quote (c :: text) = .ok (c :: written, rest) := by
  have legal : ¬(c = '<' ∨ (!isAllowed c) = true) := by simp [plain.ne_bracket, plain.allowed]
  simp only [attributeValue, if_neg plain.ne_quote, if_neg legal, if_neg plain.ne_ampersand,
    scanned]
  rfl

theorem attributeValue_append_of_plain (plain : ∀ c ∈ name, IsPlain quote c)
    (scanned : attributeValue quote text = .ok (written, rest)) :
    attributeValue quote (name ++ text) = .ok (name ++ written, rest) := by
  induction name with
  | nil => exact scanned
  | cons c name ih =>
      rcases List.forall_mem_cons.mp plain with ⟨plainFirst, plainLater⟩
      exact attributeValue_cons_of_plain plainFirst (ih plainLater)

theorem isPlain_of_isReferenceChar (isQuote : IsQuote quote)
    (inReference : isReferenceChar c = true) : IsPlain quote c := by
  have range := toNat_of_isReferenceChar inReference
  refine ⟨?_, ?_, ?_, ?_⟩
  · simp only [isAllowed, Char.toNat, Bool.or_eq_true, Bool.and_eq_true, decide_eq_true_eq,
      bne_iff_ne]
    omega
  · rintro rfl
    rcases isQuote with rfl | rfl <;> exact absurd inReference (by decide)
  · rintro rfl
    exact absurd inReference (by decide)
  · rintro rfl
    exact absurd inReference (by decide)

theorem isPlain_of_isSpace (isQuote : IsQuote quote) (space : isSpace c = true) :
    IsPlain quote c := by
  rcases isQuote with rfl | rfl <;>
    rcases isSpace_iff.mp space with rfl | rfl | rfl | rfl <;>
      exact ⟨by decide, by decide, by decide, by decide⟩

theorem attributeValue_append (isQuote : IsQuote quote) (spells : SpellsValue quote written value)
    (rest : Text) :
    attributeValue quote (written ++ quote :: rest) = .ok (written, quote :: rest) := by
  induction spells with
  | nil => simp [attributeValue]
  | char allowed inside _ ih =>
      exact attributeValue_cons_of_plain ⟨allowed, inside.1, inside.2.1, inside.2.2.1⟩ ih
  | space space _ _ ih => exact attributeValue_cons_of_plain (isPlain_of_isSpace isQuote space) ih
  | lineEnd _ ih =>
      have plain : ∀ c ∈ ['\r', '\n'], IsPlain quote c := fun c mem =>
        isPlain_of_isSpace isQuote (List.all_eq_true.mp rfl c mem)
      exact attributeValue_append_of_plain plain ih
  | @reference reference written value c refers _ ih =>
      rcases reference_append refers (written ++ quote :: rest) with ⟨found, scanned, _⟩
      have more := attributeValue_append_of_plain (fun c mem =>
        isPlain_of_isReferenceChar isQuote (isReferenceChar_of_refersTo refers c mem)) ih
      have opens : '&' ≠ quote ∧ ¬('&' = '<' ∨ (!isAllowed '&') = true) := by
        rcases isQuote with rfl | rfl <;> decide
      simp only [List.cons_append, List.append_assoc, attributeValue, if_neg opens.1,
        if_neg opens.2, if_true, scanned, more]
      rfl

/-- Whether a scanned attribute is one way to write an attribute with its value. -/
def Attribute.Spells (scanned : Attribute) (named : Text × Text) : Prop :=
  scanned.name = named.1 ∧ ∃ quote, IsQuote quote ∧ SpellsValue quote scanned.value named.2

theorem attribute?_append {before behind : Text} (isName : IsQualifiedName name)
    (blankBefore : IsSpaces before) (blankBehind : IsSpaces behind) (isQuote : IsQuote quote)
    (spells : SpellsValue quote written value) (rest : Text) :
    let text := name ++ (before ++ '=' :: (behind ++ quote :: (written ++ quote :: rest)))
    attribute? text = .ok (⟨name, written, text, quote :: rest⟩, quote :: rest) := by
  intro text
  have scannedName : qualifiedName text =
      .ok (name, before ++ '=' :: (behind ++ quote :: (written ++ quote :: rest))) :=
    qualifiedName_append isName (inName_stops blankBefore rfl)
  have quoteStops : (quote :: (written ++ quote :: rest)).head?.any isSpace = false := by
    rcases isQuote with rfl | rfl <;> rfl
  simp only [attribute?, scannedName, bind, Except.bind, Text.dropWhile_append_stop blankBefore
    (rfl : ('=' :: (behind ++ quote :: (written ++ quote :: rest))).head?.any isSpace = false),
    char_cons, Text.dropWhile_append_stop blankBehind quoteStops]
  rw [if_pos (by exact isQuote), attributeValue_append isQuote spells]
  rfl

/-- The end of a tag, which may close the element. -/
def tagMark (closed : Bool) : Text :=
  if closed then ['/', '>'] else ['>']

theorem tagEnd_append (closed : Bool) (rest : Text) :
    tagEnd (tagMark closed ++ rest) = .ok (closed, rest) := by
  cases closed <;> rfl

theorem tagMark_stops (closed : Bool) (rest : Text) :
    (tagMark closed ++ rest).head?.any isSpace = false ∧
      (tagMark closed ++ rest).head?.any isNameStart = false ∧
        (tagMark closed ++ rest).head?.any inName = false := by
  cases closed <;> exact ⟨rfl, rfl, rfl⟩

/-- The rest of a tag gives its attributes as they are written. -/
theorem tagRest_append (spells : SpellsAttributes written attributes) (blank : IsSpaces blanks)
    (closed : Bool) (rest : Text) {steps : Nat}
    (enough : attributes.length < steps) :
    ∃ scanned, tagRest steps (written ++ (blanks ++ (tagMark closed ++ rest))) =
        .ok (scanned, closed, rest) ∧ List.Forall₂ Attribute.Spells scanned attributes := by
  induction spells generalizing steps with
  | nil =>
      rcases tagMark_stops closed rest with ⟨noSpace, noName, _⟩
      rcases steps with _ | steps
      · simp at enough
      refine ⟨[], ?_, .nil⟩
      rw [List.nil_append, tagRest, Text.dropWhile_append_stop blank noSpace, noName,
        Bool.and_false, if_neg (by simp), tagEnd_append]
      rfl
  | @cons gap before behind name value inner more quote attributes apart gapBlank isName blankBefore
      blankBehind isQuote spellsValue others ih =>
      rcases steps with _ | steps
      · simp at enough
      rcases ih (Nat.lt_of_succ_lt_succ enough) with ⟨scanned, restScanned, spellsRest⟩
      let text := name ++ (before ++ '=' :: (behind ++ quote :: (inner ++ quote ::
        (more ++ (blanks ++ (tagMark closed ++ rest))))))
      let first : Attribute := ⟨name, inner, text,
        quote :: (more ++ (blanks ++ (tagMark closed ++ rest)))⟩
      have scannedFirst : attribute? text =
          .ok (first, quote :: (more ++ (blanks ++ (tagMark closed ++ rest)))) :=
        attribute?_append isName blankBefore blankBehind isQuote spellsValue _
      refine ⟨first :: scanned, ?_, .cons ⟨rfl, quote, isQuote, spellsValue⟩ spellsRest⟩
      have begins : text.head?.any isNameStart = true := isName.head?_any _
      have apartHere : (gap ++ text).head?.any isSpace = true := by
        rcases List.exists_cons_of_ne_nil apart with ⟨space, gap, rfl⟩
        simpa using gapBlank space (by simp)
      have noSpace : text.head?.any isSpace = false := head?_any_isSpace begins
      have textEq : gap ++ (name ++ (before ++ '=' :: (behind ++ quote :: (inner ++ quote ::
          more)))) ++ (blanks ++ (tagMark closed ++ rest)) = gap ++ text := by
        simp [text]
      rw [textEq, tagRest, Text.dropWhile_append_stop gapBlank noSpace, apartHere, begins,
        Bool.and_true, if_pos rfl, scannedFirst]
      simp only [bind, Except.bind, List.drop_one, List.tail_cons, restScanned]
      rfl

theorem attributes_stop (spells : SpellsAttributes written attributes)
    (stops : rest.head?.any inName = false) : (written ++ rest).head?.any inName = false := by
  cases spells with
  | nil => exact stops
  | @cons gap _ _ _ _ _ _ _ _ apart gapBlank =>
      rcases List.exists_cons_of_ne_nil apart with ⟨space, gap, rfl⟩
      simpa using inName_of_isSpace (gapBlank space (by simp))

theorem length_attributes_le (spells : SpellsAttributes written attributes) :
    attributes.length ≤ written.length := by
  induction spells with
  | nil => simp
  | cons _ _ _ _ _ _ _ _ ih =>
      simp only [List.length_append, List.length_cons]
      omega

theorem markup_of_isNameStart (begins : text.head?.any isNameStart = true) :
    markup text = startTag text := by
  refine markup.eq_6 text ?_ ?_ ?_ ?_ ?_ <;>
    · rintro _ rfl
      exact absurd begins Bool.false_ne_true

/-- A tag that opens an element is scanned as its name and its attributes. -/
theorem markup_startTag (spells : SpellsTag outside tag element) (closed : Bool) (rest : Text) :
    ∃ scanned attributes, markup (tag ++ (tagMark closed ++ rest)) =
        .ok (.startTag element.writtenName scanned closed, rest) ∧
      List.Forall₂ Attribute.Spells scanned attributes ∧ Opens outside attributes element := by
  cases spells with
  | @intro written blanks attributes element isName spellsAttributes blank opens =>
      have stops := attributes_stop spellsAttributes
        (inName_stops blank (tagMark_stops closed rest).2.2)
      have scannedName := qualifiedName_append isName stops
      have enough : attributes.length <
          (written ++ (blanks ++ (tagMark closed ++ rest))).length + 1 := by
        have fewer := length_attributes_le spellsAttributes
        rw [List.length_append]
        omega
      rcases tagRest_append spellsAttributes blank closed rest enough with
        ⟨scanned, restScanned, spellsScanned⟩
      refine ⟨scanned, attributes, ?_, spellsScanned, opens⟩
      rw [List.append_assoc, List.append_assoc, markup_of_isNameStart (isName.head?_any _)]
      simp only [startTag, scannedName, restScanned, bind, Except.bind]
      rfl

theorem markup_endTag (isName : IsQualifiedName name) (blank : IsSpaces blanks) (rest : Text) :
    markup ('/' :: (name ++ (blanks ++ '>' :: rest))) = .ok (.endTag name, rest) := by
  have inside : ∀ c ∈ name, inName c = true := by
    cases isName with
    | plain isName => exact fun c mem => by simp [inName, isName.isNameChar c mem]
    | prefixed isLabel isName =>
        intro c mem
        rcases List.mem_append.mp mem with mem | mem
        · simp [inName, isLabel.isNameChar c mem]
        · rcases List.mem_cons.mp mem with rfl | mem
          · simp [inName]
          · simp [inName, isName.isNameChar c mem]
  have stops : (blanks ++ '>' :: rest).head?.any inName = false := inName_stops blank rfl
  have unfolded : markup ('/' :: (name ++ (blanks ++ '>' :: rest))) =
      endTag (name ++ (blanks ++ '>' :: rest)) := rfl
  have taken := Text.takeWhile_append_stop inside stops
  have dropped := Text.dropWhile_append_stop inside stops
  rw [unfolded, endTag, if_pos (isName.head?_any _)]
  unfold inName at taken dropped
  simp only [taken, dropped, Text.dropWhile_append_stop blank
    (rfl : ('>' :: rest).head?.any isSpace = false), char_cons, bind, Except.bind]
  rfl

theorem commentBody_append (allowed : IsAllowedText body)
    (single : ¬['-', '-'] <:+: body ++ ['-']) (rest : Text) :
    commentBody (body ++ '-' :: '-' :: '>' :: rest) = .ok rest := by
  induction body with
  | nil => rfl
  | cons c body ih =>
      have later : ¬['-', '-'] <:+: body ++ ['-'] := fun inside =>
        single (List.infix_cons inside)
      rw [List.cons_append, commentBody.eq_3 _ _ ?_]
      · rw [if_pos (allowed c (by simp))]
        exact ih (fun d mem => allowed d (by simp [mem])) later
      · rintro more rfl equal
        refine single ?_
        cases body with
        | nil => exact List.infix_refl _
        | cons d body =>
            simp only [List.cons_append, List.cons.injEq] at equal
            rw [equal.1]
            exact ⟨[], body ++ ['-'], by simp⟩

theorem markup_comment (allowed : IsAllowedText body) (single : ¬['-', '-'] <:+: body ++ ['-'])
    (rest : Text) :
    markup ('!' :: '-' :: '-' :: (body ++ '-' :: '-' :: '>' :: rest)) = .ok (.comment, rest) := by
  simp only [markup, comment, char_cons, bind, Except.bind, commentBody_append allowed single]
  rfl

theorem instructionBody_append (allowed : IsAllowedText body) (unended : ¬['?', '>'] <:+: body)
    (rest : Text) :
    instructionBody (body ++ '?' :: '>' :: rest) = .ok (body, rest) := by
  induction body with
  | nil => rfl
  | cons c body ih =>
      have later : ¬['?', '>'] <:+: body := fun inside => unended (List.infix_cons inside)
      rw [List.cons_append, instructionBody.eq_3 _ _ ?_]
      · rw [if_pos (allowed c (by simp)), ih (fun d mem => allowed d (by simp [mem])) later]
        rfl
      · rintro more rfl equal
        cases body with
        | nil => simp at equal
        | cons d body =>
            simp only [List.cons_append, List.cons.injEq] at equal
            exact unended ⟨[], body, by simp [equal.1]⟩

theorem markup_instruction (isName : IsName target)
    (free : target.map Char.toLower ≠ ['x', 'm', 'l']) (apart : ∀ c ∈ body.head?, isSpace c = true)
    (allowed : IsAllowedText body) (unended : ¬['?', '>'] <:+: body) (rest : Text) :
    markup ('?' :: (target ++ (body ++ '?' :: '>' :: rest))) = .ok (.instruction, rest) := by
  have notDeclaration : target ≠ ['x', 'm', 'l'] := by
    rintro rfl
    exact free (by decide)
  have notReserved : ¬(target.length = 3 ∧ String.ofList (target.map Char.toLower) = "xml") := by
    rintro ⟨_, equal⟩
    have lists := congrArg String.toList equal
    rw [String.toList_ofList, String.toList_ofList] at lists
    exact free lists
  have stops : (body ++ '?' :: '>' :: rest).head?.any isNameChar = false := by
    cases body with
    | nil => rfl
    | cons c body => simpa using isNameChar_of_isSpace (apart c (by simp))
  have scannedName := name_append isName stops
  have scanned : instruction (target ++ (body ++ '?' :: '>' :: rest)) = .ok (.other, rest) := by
    simp only [instruction, scannedName, bind, Except.bind, notReserved, false_and, and_false,
      if_false, if_neg notDeclaration]
    cases body with
    | nil => rfl
    | cons c body =>
        rw [if_pos (by simpa using apart c (by simp)), instructionBody_append allowed unended]
        rfl
  simp only [markup, scanned, bind, Except.bind]
  rfl

theorem markup_dataSection (rest : Text) :
    markup ('!' :: '[' :: 'C' :: 'D' :: 'A' :: 'T' :: 'A' :: '[' :: rest) =
      .ok (.dataSection, rest) := rfl

end ScriptSite.Xml.Scan
