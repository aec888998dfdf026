import ScriptSite.Proofs.Text.Utf8
import ScriptSite.Proofs.Xml.Content
import ScriptSite.Xml.Document

/-!
# Reading a document

A document that is a root element and nothing else is read as that element, given as a text or as
the bytes of one (`readText_eq`, `readBytes_eq`), if its content adds some nodes to the root.
-/

namespace ScriptSite.Xml

variable {tag body blanks left tail text : Text} {c : Char} {root : OpenElement}
  {expansion : Expansion} {nodes : List Node}
  {expand : Text → Text → Progress → Except Stop Progress}

/-- The tag that ends the root element closes it. -/
theorem content_endTag (isName : IsQualifiedName root.writtenName) (blank : IsSpaces blanks)
    (steps : Nat) :
    content .complete {} 0 expand (steps + 1) ⟨[root], left, expansion⟩
        ('<' :: '/' :: (root.writtenName ++ (blanks ++ ['>']))) =
      .ok (.closed (.element root.name root.attributes
        (root.children.reverse ++ pendingNodes left)) []) := by
  rw [content_markup (Scan.markup_endTag isName blank []), afterMarkup]
  simp only [closeElement, List.length_nil, Nat.not_lt_zero, if_false, ne_eq, not_true,
    List.isEmpty_nil, if_true, Stop.startingAt, bind, Except.bind, flushed_eq, List.reverse_append,
    List.reverse_reverse]
  rfl

/-- A root element is closed with the nodes that its content adds to it. -/
theorem content_root (spells : SpellsTag Bindings.initial tag root) (blank : IsSpaces blanks)
    (passes : Passes expand ⟨[root], [], expansion⟩ body ⟨[root.adding nodes], left, expansion⟩
      ('<' :: '/' :: (root.writtenName ++ (blanks ++ ['>'])))) {steps : Nat}
    (enough : body.length + 2 ≤ steps) :
    content .complete {} 0 expand steps { expansion }
        ('<' :: (tag ++ '>' :: (body ++ '<' :: '/' :: (root.writtenName ++ (blanks ++ ['>']))))) =
      .ok (.closed (.element root.name root.attributes (nodes ++ pendingNodes left)) []) := by
  rcases steps with _ | steps
  · simp at enough
  rcases Scan.markup_startTag spells false
    (body ++ '<' :: '/' :: (root.writtenName ++ (blanks ++ ['>']))) with
    ⟨scanned, attributes, isMarkup, spellsAll, opens⟩
  rcases spells.isQualifiedName_and_childless with ⟨isName, childless⟩
  have opened : openElement {} Bindings.initial expansion root.writtenName scanned =
      .ok (root, expansion) := openElement_of_opens opens spellsAll
  rcases passes steps (by omega) with ⟨more, most, inside⟩
  rcases more with _ | more
  · omega
  have ends : content .complete {} 0 expand (more + 1) ⟨[root.adding nodes], left, expansion⟩
      ('<' :: '/' :: (root.writtenName ++ (blanks ++ ['>']))) =
        .ok (.closed (.element root.name root.attributes (nodes ++ pendingNodes left)) []) := by
    have closed :=
      @content_endTag blanks left (root.adding nodes) expansion expand isName blank more
    simpa [OpenElement.adding, childless] using closed
  rw [Scan.tagMark, if_neg (by simp), List.singleton_append] at isMarkup
  rw [content_markup isMarkup, afterMarkup]
  simp only [Progress.bindings, opened, Stop.startingAt, bind, Except.bind,
    Bool.false_eq_true, if_false]
  have pushed : Progress.push ⟨[], [], expansion⟩ root = ⟨[root], [], expansion⟩ := rfl
  rw [pushed, inside, ends]

theorem rootElement_of_passes (spells : SpellsTag Bindings.initial tag root)
    (blank : IsSpaces blanks) {budget : Nat}
    (passes : Passes (expandContent {} 1) ⟨[root], [], { budget }⟩ body
      ⟨[root.adding nodes], left, { budget }⟩
      ('<' :: '/' :: (root.writtenName ++ (blanks ++ ['>'])))) :
    rootElement .complete {} budget
        ('<' :: (tag ++ '>' :: (body ++ '<' :: '/' :: (root.writtenName ++ (blanks ++ ['>']))))) =
      .ok (.element root.name root.attributes (nodes ++ pendingNodes left), []) := by
  rw [rootElement, List.length_nil, Nat.zero_add, content_root spells blank passes]
  · rfl
  · simp only [List.length_cons, List.length_append]
    omega

/-- A bracket in front of a name begins the root element. -/
theorem scan_root (begins : isNameStart c = true) :
    Lexeme.scan .complete ('<' :: c :: tail) = .ok (.root, '<' :: c :: tail) := by
  have unfolded : Lexeme.scan .complete ('<' :: c :: tail) =
      Lexeme.scanBracket ('<' :: c :: tail) (c :: tail) := rfl
  rw [unfolded, Lexeme.scanBracket.eq_3, if_pos (by simpa using begins)]
  · rintro rest equal
    rw [(List.cons.inj equal).1] at begins
    exact absurd begins (by decide)
  · rintro rest equal
    rw [(List.cons.inj equal).1] at begins
    exact absurd begins (by decide)

/-- What a document with nothing around its root element is read as. -/
theorem readRest_of_rootElement (begins : isNameStart c = true) {found : Node} {budget : Nat}
    (closed : rootElement .complete {} budget ('<' :: c :: tail) = .ok (found, [])) :
    readRest ⟨'<' :: c :: tail, .complete⟩ false budget = .ok found := by
  have next : nextLexeme .complete ('<' :: c :: tail) =
      .ok ⟨.root, '<' :: c :: tail, '<' :: c :: tail⟩ := by
    have start : ('<' :: c :: tail).dropWhile isSpace = '<' :: c :: tail := rfl
    simp only [nextLexeme, start, List.isEmpty_cons, Bool.false_eq_true, if_false, scan_root begins]
  have noProlog : ∀ steps, prolog .complete budget (steps + 1) false {} ('<' :: c :: tail) =
      .ok ({}, '<' :: c :: tail) := by
    intro steps
    simp only [prolog, next, bind, Except.bind]
    rfl
  have noEpilog : ∀ steps, epilog .complete steps [] = .ok () := by
    intro steps
    cases steps <;> rfl
  have atStart := noProlog ('<' :: c :: tail).length
  simp only [readRest, atStart, closed, noEpilog, bind, Except.bind]
  rfl

/-- The bytes of a document that begins with a tag in ASCII show that it is in UTF-8. -/
theorem detect_encode (letter : c.isAlpha = true) (tail : Text) :
    Encoding.detect (Utf8.encode ('<' :: c :: tail)) = (.utf8, none) ∧
      Encoding.isUndecided (Utf8.encode ('<' :: c :: tail)) = false := by
  have range : 0x20 ≤ c.val.toNat ∧ c.val.toNat < 0x80 :=
    Scan.toNat_of_isReferenceChar (by simp [Scan.isReferenceChar, Char.isAlphanum, letter])
  have bytes : Utf8.encode ('<' :: c :: tail) =
      0x3C :: UInt8.ofNat c.val.toNat :: Utf8.encode tail := by
    simp only [Utf8.encode, List.flatMap_cons, String.utf8EncodeChar,
      if_pos (Nat.le_of_lt_succ range.2)]
    rfl
  have notZero : UInt8.ofNat c.val.toNat ≠ 0 := by
    intro zero
    have equal := congrArg UInt8.toNat zero
    rw [Utf8.toNat_byte (by omega)] at equal
    simp only [UInt8.toNat_zero] at equal
    omega
  rw [bytes]
  constructor
  · simpa [Encoding.detect] using notZero
  · simp [Encoding.isUndecided]

theorem readDocument_of_rootElement (letter : c.isAlpha = true) {found : Node}
    (closed : rootElement .complete {} (entityBudget (Utf8.encode ('<' :: c :: tail)).length)
      ('<' :: c :: tail) = .ok (found, [])) (fixed : Bool) :
    readDocument fixed (Utf8.encode ('<' :: c :: tail)) = .ok found := by
  have begins : isNameStart c = true := by simp [isNameStart, letter]
  have read : readUtf8 (Utf8.encode ('<' :: c :: tail)) = ⟨'<' :: c :: tail, .complete⟩ := by
    rw [readUtf8, Utf8.decode_encode]
  rcases detect_encode letter tail with ⟨detected, decided⟩
  simp only [readDocument, detected, decided, Bool.false_eq_true, if_false, Option.getD_none,
    Encoding.read, read, scan_root begins, readRest_of_rootElement begins closed, diagnose]

end ScriptSite.Xml
