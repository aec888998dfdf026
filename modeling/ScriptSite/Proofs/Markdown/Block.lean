import ScriptSite.Markdown.Block
import ScriptSite.Proofs.Markdown.Prose
import ScriptSite.Proofs.Markdown.Run

/-!
# Blocks of plain prose

A block is anything but a paragraph only if it begins with blanks or has a mark in it. So a block
that shows a text without marks and without blanks at its ends is a paragraph
(`readBlocks_paragraph`).

Paragraphs are parted by pairs of newlines. Newlines above a paragraph give empty blocks and, if
their number is odd, one newline at the head of the paragraph's own block; reading blocks drops both
(`readBlocks_holdsParagraphs`). So a text with paragraphs in it, whatever the number of newlines
above and below them, is read as the document with these paragraphs (`parseBlocks_spread`).
-/

namespace ScriptSite.Markdown

variable {text : Text} {texts : List Text} {blocks : List Run} {steps : Nat}

theorem atFirstLine?_eq_none {α : Type} {find? : Run → Option α}
    (absent : ∀ later, later <:+ text → find? (Run.ofText later) = none) :
    atFirstLine? find? (Run.ofText text) = none := by
  have behind : ∀ (before : Run) (later : Text), later <:+ text →
      atFirstLine?.behind find? before (Run.ofText later) = none := by
    intro before later
    induction later generalizing before with
    | nil =>
        intro _
        rfl
    | cons c later ih =>
        intro suffix
        have below : later <:+ text := (List.suffix_cons c later).trans suffix
        rw [Run.ofText_cons, atFirstLine?.behind, absent later below]
        split
        · exact ih _ below
        · exact ih _ below
  rw [atFirstLine?, absent text (List.suffix_refl text)]
  exact behind [] text (List.suffix_refl text)

theorem heading?_eq_none (absent : '#' ∉ text) : heading? (Run.ofText text) = none := by
  apply atFirstLine?_eq_none
  intro later suffix
  have laterAbsent : '#' ∉ later := fun mem => absent (suffix.subset mem)
  simp [headingAt?, Run.takeWhile_is_of_notMem laterAbsent]

theorem splitSpaces_ofText (text : Text) :
    splitSpaces (Run.ofText text) =
      ((text.takeWhile (' ' == ·)).length, Run.ofText (text.dropWhile (' ' == ·))) := by
  simp only [splitSpaces, Run.ofText, List.takeWhile_map, List.dropWhile_map, List.length_map]
  rfl

theorem notMem_dropWhile {c : Char} {p : Char → Bool} (absent : c ∉ text) : c ∉ text.dropWhile p :=
  fun mem => absent ((List.dropWhile_sublist p).subset mem)

theorem quotation?_eq_none (absent : '>' ∉ text) : quotation? (Run.ofText text) = none := by
  have quoted : atFirstLine? quoted? (Run.ofText text) = none := by
    apply atFirstLine?_eq_none
    intro later suffix
    have laterAbsent : '>' ∉ later := fun mem => absent (suffix.subset mem)
    rw [quoted?, splitSpaces_ofText]
    dsimp only
    split
    · rename_i equal
      exact absurd (Run.mem_of_ofText_eq_cons equal) (notMem_dropWhile laterAbsent)
    · rfl
  rw [quotation?, quoted, Option.map_none]

theorem definition?_eq_none (absent : '[' ∉ text) : definition? (Run.ofText text) = none := by
  apply atFirstLine?_eq_none
  intro later suffix
  have laterAbsent : '[' ∉ later := fun mem => absent (suffix.subset mem)
  have opening : openBracket? (Run.ofText later) = none := by
    rw [openBracket?, splitSpaces_ofText]
    dsimp only
    rw [Run.dropPrefix?_of_notMem (notMem_dropWhile laterAbsent), ite_self]
  rw [definitionAt?, opening]
  rfl

theorem notMem_of_mem_lines {c : Char} {line : Text} (absent : c ∉ text)
    (mem : line ∈ Text.lines text) : c ∉ line :=
  fun inLine => absent ((Text.sublist_of_mem_splitWhere mem).subset inLine)

theorem underlinedHeading?_eq_none (equals : '=' ∉ text) (dash : '-' ∉ text) :
    underlinedHeading? (Run.ofText text) = none := by
  rw [underlinedHeading?, Run.lines_ofText]
  rcases found : Text.lines text with _ | ⟨title, _ | ⟨underline, more⟩⟩
  · rfl
  · rfl
  · have mem : underline ∈ Text.lines text := by simp [found]
    have none :
        (Run.ofText underline).takeWhile (fun glyph => glyph.is '=' || glyph.is '-') = [] := by
      cases underline with
      | nil => rfl
      | cons c underline =>
          have notEquals : '=' ≠ c :=
            fun same => notMem_of_mem_lines equals mem (same ▸ List.mem_cons_self)
          have notDash : '-' ≠ c :=
            fun same => notMem_of_mem_lines dash mem (same ▸ List.mem_cons_self)
          simp [notEquals, notDash]
    simp [none]

theorem isRule_eq_false (dash : '-' ∉ text) (underscore : '_' ∉ text) (star : '*' ∉ text) :
    isRule (Run.ofText text) = false := by
  rw [isRule, splitSpaces_ofText]
  simp [Run.startsWith_of_notMem (notMem_dropWhile dash),
    Run.startsWith_of_notMem (notMem_dropWhile underscore),
    Run.startsWith_of_notMem (notMem_dropWhile star)]

theorem splitAtRule?_eq_none {lines : List Run} (noRule : ∀ line ∈ lines, isRule line = false) :
    splitAtRule? lines = none := by
  induction lines with
  | nil => rfl
  | cons line lines ih =>
      rcases List.forall_mem_cons.mp noRule with ⟨here, later⟩
      rw [splitAtRule?, here, if_neg (by decide), ih later, Option.map_none]

theorem mark?_eq_none (prose : ∀ c ∈ text, isProseChar c = true) :
    mark? (Run.ofText text) = none := by
  unfold mark?
  dsimp only
  split
  · split
    · rename_i behind
      have point := (List.drop_sublist _ _).subset (behind ▸ List.mem_cons_self)
      exact absurd (prose '.' (by simpa [Run.ofText] using point)) (by decide)
    · rfl
  · split
    · rename_i c rest equal
      have notMark : ¬(c = '*' ∨ c = '+' ∨ c = '-') := by
        rintro (rfl | rfl | rfl)
        · exact absurd (prose _ (Run.mem_of_ofText_eq_cons equal)) (by decide)
        · exact absurd (prose _ (Run.mem_of_ofText_eq_cons equal)) (by decide)
        · exact absurd (prose _ (Run.mem_of_ofText_eq_cons equal)) (by decide)
      rw [if_neg notMark, Option.bind_none]
    · rfl

theorem item?_eq_none (prose : ∀ c ∈ text, isProseChar c = true) :
    item? (Run.ofText text) = none := by
  have inside : ∀ c ∈ text.dropWhile (' ' == ·), isProseChar c = true :=
    fun c mem => prose c ((List.dropWhile_sublist _).subset mem)
  rw [item?, splitSpaces_ofText]
  dsimp only
  rw [mark?_eq_none inside, ite_self]

theorem isIndented_cons_of_visible {c : Char} (visible : isBlank c = false) (rest : Run) :
    isIndented (.char c :: rest) = false := by
  have other : ' ' ≠ c := ne_of_apply_ne isBlank (by rw [visible]; decide)
  simp [isIndented, Run.startsWith, indent, indentWidth, Run.dropPrefix?, List.replicate_succ,
    other]

/-- A paragraph is read as such. -/
theorem readBlocks_paragraph (tight : IsTight text) (steps : Nat) (parent : Element)
    (rest : List Run) :
    readBlocks (steps + 1) .plain parent (Run.ofText text :: rest) =
      readBlocks steps .plain (parent.append (paragraphOf text)) rest := by
  have unmarked := tight.toIsUnmarked
  have rule : splitAtRule? (Run.ofText text).lines = none := by
    apply splitAtRule?_eq_none
    rw [Run.lines_ofText]
    intro line mem
    rcases List.mem_map.mp mem with ⟨inner, innerMem, rfl⟩
    exact isRule_eq_false (notMem_of_mem_lines (unmarked.notMem (by decide)) innerMem)
      (notMem_of_mem_lines (unmarked.notMem (by decide)) innerMem)
      (notMem_of_mem_lines (unmarked.notMem (by decide)) innerMem)
  rcases tight.exists_cons with ⟨c, inner, equal, visible⟩
  have newline : Run.startsWith ['\n'] (Run.ofText text) = false := by
    simp [equal, Run.startsWith, Run.dropPrefix?, newline_ne_of_visible visible]
  have indented : isIndented (Run.ofText text) = false := by
    rw [equal]
    exact isIndented_cons_of_visible visible _
  have nonempty : (Run.ofText text).isEmpty = false := by simp [equal]
  have added : addParagraph .plain (Run.ofText text) parent = parent.append (paragraphOf text) := by
    have glyphVisible : (Glyph.char c).isBlank = false := visible
    rw [equal, addParagraph, Run.ofText_cons, Run.trimLeft_cons_of_visible glyphVisible]
    simp [Run.allBlank, visible, paragraphOf]
  rw [readBlocks, newline, indented, nonempty, heading?_eq_none (unmarked.notMem (by decide)),
    underlinedHeading?_eq_none (unmarked.notMem (by decide)) (unmarked.notMem (by decide)), rule,
    item?_eq_none unmarked.prose, quotation?_eq_none (unmarked.notMem (by decide)),
    definition?_eq_none (unmarked.notMem (by decide)), added]
  rfl

/-- Blank lines add to a block of code only, and there is none among paragraphs. -/
theorem extendCode_documentOf (more : Run) (texts : List Text) :
    extendCode more (documentOf texts) = documentOf texts := by
  have absent : ((documentOf texts).last?.bind fun block =>
      (codeOf? block).map fun code => (block, code)) = none := by
    have last : (documentOf texts).last? = texts.getLast?.map paragraphOf := List.getLast?_map
    rw [last]
    cases texts.getLast? with
    | none => rfl
    | some text => rfl
  rw [extendCode, absent]

theorem readBlocks_nil (steps : Nat) (around : Surroundings) (parent : Element) :
    readBlocks steps around parent [] = pure parent := by
  cases steps with
  | zero => rfl
  | succ steps => rw [readBlocks]

theorem readBlocks_empty (steps : Nat) (texts : List Text) (rest : List Run) :
    readBlocks (steps + 1) .plain (documentOf texts) ([] :: rest) =
      readBlocks steps .plain (documentOf texts) rest := by
  rw [readBlocks]
  simp [extendCode_documentOf, pushBlock]

theorem readBlocks_newline (steps : Nat) (texts : List Text) (block : Run) (rest : List Run) :
    readBlocks (steps + 1) .plain (documentOf texts) ((.char '\n' :: block) :: rest) =
      readBlocks steps .plain (documentOf texts) (pushBlock block rest) := by
  rw [readBlocks]
  simp [extendCode_documentOf, Run.startsWith, Run.dropPrefix?]

/-- Whether some blocks hold paragraphs that show the given texts, and newlines besides. -/
inductive HoldsParagraphs : List Run → List Text → Prop
  | nil : HoldsParagraphs [] []
  | empty {blocks : List Run} {texts : List Text} (rest : HoldsParagraphs blocks texts) :
      HoldsParagraphs ([] :: blocks) texts
  | newline {block : Run} {blocks : List Run} {texts : List Text}
      (below : HoldsParagraphs (block :: blocks) texts) :
      HoldsParagraphs ((.char '\n' :: block) :: blocks) texts
  | paragraph {text : Text} {blocks : List Run} {texts : List Text} (tight : IsTight text)
      (rest : HoldsParagraphs blocks texts) :
      HoldsParagraphs (Run.ofText text :: blocks) (text :: texts)

/-- A bound on the steps that it takes to read blocks of newlines and paragraphs. -/
def weight : List Run → Nat
  | [] => 0
  | block :: blocks => block.length + 1 + weight blocks

@[simp]
theorem weight_cons (block : Run) (blocks : List Run) :
    weight (block :: blocks) = block.length + 1 + weight blocks := rfl

/-- Blocks of newlines and paragraphs add these paragraphs to the document. -/
theorem readBlocks_holdsParagraphs (holds : HoldsParagraphs blocks texts)
    (enough : weight blocks ≤ steps) (done : List Text) :
    readBlocks steps .plain (documentOf done) blocks = pure (documentOf (done ++ texts)) := by
  induction holds generalizing steps done with
  | nil => rw [readBlocks_nil, List.append_nil]
  | empty rest ih =>
      rw [weight_cons] at enough
      rcases steps with _ | steps
      · omega
      · rw [readBlocks_empty]
        exact ih (by omega) done
  | @newline block blocks texts below ih =>
      rw [weight_cons, List.length_cons] at enough
      rcases steps with _ | steps
      · omega
      · rw [readBlocks_newline]
        cases block with
        | cons glyph block =>
            apply ih
            rw [weight_cons]
            omega
        | nil =>
            -- A newline alone leaves no block, which is as good as an empty one.
            have fits : weight ([] :: blocks) ≤ steps + 1 := by
              rw [weight_cons]
              omega
            have one := ih fits done
            rwa [readBlocks_empty] at one
  | @paragraph text blocks texts tight rest ih =>
      rw [weight_cons] at enough
      rcases steps with _ | steps
      · omega
      · have grown : (documentOf done).append (paragraphOf text) = documentOf (done ++ [text]) := by
          simp [documentOf, Element.append, Element.withChildren, Element.empty, Element.children]
        rw [readBlocks_paragraph tight, grown, ih (by omega), List.append_assoc,
          List.singleton_append]

theorem paragraphs_ne_nil (run : Run) : run.paragraphs ≠ [] := by
  fun_induction Run.paragraphs run <;> simp

theorem weight_paragraphs_le (run : Run) : weight run.paragraphs ≤ run.length + 1 := by
  fun_induction Run.paragraphs run with
  | case1 => simp [weight]
  | case2 => simp [weight]
  | case3 first second rest both ih =>
      simp only [weight_cons, List.length_cons, List.length_nil]
      omega
  | case4 first second rest apart none ih => exact absurd none (paragraphs_ne_nil _)
  | case5 first second rest apart block more found ih =>
      rw [found, weight_cons, List.length_cons] at ih
      simp only [weight_cons, List.length_cons]
      omega

/-- A glyph that makes no pair of newlines with the one behind it belongs to the first block. -/
theorem paragraphs_cons {glyph : Glyph} {rest : Run}
    (apart : (glyph.is '\n' && rest.head?.any (·.is '\n')) = false) :
    Run.paragraphs (glyph :: rest) = (Run.paragraphs rest).modifyHead (glyph :: ·) := by
  cases rest with
  | nil => rfl
  | cons second rest =>
      rw [List.head?_cons, Option.any_some] at apart
      rw [Run.paragraphs, apart, if_neg (by decide)]
      cases found : Run.paragraphs (second :: rest) with
      | nil => exact absurd found (paragraphs_ne_nil _)
      | cons block more => rfl

theorem paragraphs_newlines (rest : Run) :
    Run.paragraphs (.char '\n' :: .char '\n' :: rest) = [] :: Run.paragraphs rest := by
  rw [Run.paragraphs]
  rfl

/-- A text without a pair of newlines is the first block of what a blank line ends. -/
theorem paragraphs_append (spaced : text.IsChain fun c d => isBlank c = false ∨ isBlank d = false)
    (ends : ∃ c ∈ text.getLast?, isBlank c = false) (rest : Run) :
    Run.paragraphs (Run.ofText text ++ .char '\n' :: .char '\n' :: rest) =
      Run.ofText text :: Run.paragraphs rest := by
  have visible_ne : ∀ c, isBlank c = false → ('\n' == c) = false :=
    fun c visible => beq_eq_false_iff_ne.mpr (newline_ne_of_visible visible)
  induction text with
  | nil => simp at ends
  | cons c text ih =>
      cases text with
      | nil =>
          simp only [List.getLast?_singleton, Option.mem_some_iff, exists_eq_left'] at ends
          simp only [Run.ofText_cons, Run.ofText_nil, List.cons_append, List.nil_append]
          rw [paragraphs_cons (by simp [visible_ne c ends]), paragraphs_newlines]
          rfl
      | cons d text =>
          rcases List.isChain_cons_cons.mp spaced with ⟨first, later⟩
          have apart : ('\n' == c && '\n' == d) = false := by
            rcases first with visible | visible
            · rw [visible_ne c visible, Bool.false_and]
            · rw [visible_ne d visible, Bool.and_false]
          rw [Run.ofText_cons, List.cons_append, paragraphs_cons (by simpa using apart),
            ih later (by simpa using ends)]
          rfl

/-- Newlines above a run give empty blocks, and perhaps a newline at the head of its first block. -/
theorem holdsParagraphs_newlines {run : Run} (begins : run.head?.any (·.is '\n') = false)
    (holds : HoldsParagraphs run.paragraphs texts) (count : Nat) :
    HoldsParagraphs (Run.paragraphs (Run.ofText (List.replicate count '\n') ++ run)) texts := by
  induction count using Nat.twoStepInduction with
  | zero => exact holds
  | one =>
      have one : Run.paragraphs (.char '\n' :: run) =
          (Run.paragraphs run).modifyHead (.char '\n' :: ·) :=
        paragraphs_cons (by rw [begins, Bool.and_false])
      change HoldsParagraphs (Run.paragraphs (.char '\n' :: run)) texts
      rw [one]
      cases found : Run.paragraphs run with
      | nil => exact absurd found (paragraphs_ne_nil _)
      | cons block more =>
          rw [found] at holds
          exact .newline holds
  | more count ih _ =>
      rw [List.replicate_succ, List.replicate_succ, Run.ofText_cons, Run.ofText_cons,
        List.cons_append, List.cons_append, paragraphs_newlines]
      exact .empty ih

/-- Some texts, each with a blank line behind it, with newlines above and below them. -/
def spread (above below : Nat) : List Text → Text
  | [] => List.replicate below '\n'
  | text :: texts =>
      List.replicate above '\n' ++ (text ++ '\n' :: '\n' :: spread 0 below texts)

theorem holdsParagraphs_spread (tight : ∀ text ∈ texts, IsTight text) (above below : Nat) :
    HoldsParagraphs (Run.paragraphs (Run.ofText (spread above below texts))) texts := by
  induction texts generalizing above with
  | nil =>
      have none : HoldsParagraphs (Run.paragraphs []) [] := .empty .nil
      have newlines := holdsParagraphs_newlines rfl none below
      rwa [List.append_nil] at newlines
  | cons text texts ih =>
      have textTight := tight text List.mem_cons_self
      have later := ih (fun other mem => tight other (List.mem_cons_of_mem _ mem)) 0
      rw [spread, Run.ofText_append]
      apply holdsParagraphs_newlines
      · rcases textTight.exists_cons with ⟨c, rest, rfl, visible⟩
        simpa using newline_ne_of_visible visible
      · rw [Run.ofText_append, Run.ofText_cons, Run.ofText_cons,
          paragraphs_append textTight.spaced textTight.ends]
        exact .paragraph textTight later

/-- A text with paragraphs in it is read as the document with these paragraphs. -/
theorem parseBlocks_spread (tight : ∀ text ∈ texts, IsTight text) (above below : Nat) :
    parseBlocks (Run.ofText (spread above below texts)) = (documentOf texts, []) := by
  have holds := holdsParagraphs_spread tight above below
  generalize Run.ofText (spread above below texts) = run at holds
  have enough : weight run.paragraphs ≤ readSteps run := by
    have bound := weight_paragraphs_le run
    rw [readSteps]
    omega
  have read := readBlocks_holdsParagraphs holds enough []
  rw [List.nil_append] at read
  have empty : documentOf [] = Element.empty .document := rfl
  rw [parseBlocks, ← empty, read]
  rfl

end ScriptSite.Markdown
