import ScriptSite.Source.Block

/-!
# Leftmost prose blocks

`LeftmostCut` says what it means to cut a text at its prose blocks: no block begins in the stretch
before the first one, the first one is taken whole, and what follows it is cut in the same way. A
text has exactly one such cut, and it is the one that `pieces` finds (`leftmostCut_iff`).

Two facts about that cut carry the theory of segments. A stretch between two blocks holds no block
of its own (`not_holdsBlock_of_mem_pieces`). And a block cuts the text in two: what stands before it
is cut as if it stood alone, and so is what stands after it (`pieces_append_block`). The second fact
needs the text before the block not to end in a star, which could close an opening further left.
-/

namespace ScriptSite.Source

variable {text stretch body rest : Text}

/-- Whether a text can be the body of a prose block. -/
structure IsBody (body : Text) : Prop where
  ne_nil : body ≠ []
  star_notMem : '*' ∉ body

/-- Whether a text begins with a prose block. -/
def BeginsBlock (text : Text) : Prop :=
  ∃ body rest, IsBody body ∧ text = blockForm body ++ rest

/-- Whether a prose block stands anywhere in a text. -/
def HoldsBlock (text : Text) : Prop :=
  ∃ before rest, text = before ++ rest ∧ BeginsBlock rest

/-- Whether no prose block begins in `stretch` when `rest` follows it. -/
def ClearBefore (stretch rest : Text) : Prop :=
  ∀ before after, stretch = before ++ after → after ≠ [] → ¬BeginsBlock (after ++ rest)

/-- The cut of a text at its prose blocks, each the leftmost one that begins after the block before
it. -/
inductive LeftmostCut : Text → List Piece → Prop
  | last {stretch : Text} (clear : ClearBefore stretch []) : LeftmostCut stretch [.plain stretch]
  | block {stretch body rest : Text} {stretches : List Piece} (isBody : IsBody body)
      (clear : ClearBefore stretch (blockForm body ++ rest)) (cut : LeftmostCut rest stretches) :
      LeftmostCut (stretch ++ (blockForm body ++ rest))
        (.plain stretch :: .block body :: stretches)

theorem blockForm_append (body rest : Text) :
    blockForm body ++ rest = '/' :: '*' :: '*' :: (body ++ '*' :: '/' :: rest) := by
  simp [blockForm, blockOpen, blockClose]

theorem BeginsBlock.append (begins : BeginsBlock text) (rest : Text) :
    BeginsBlock (text ++ rest) := by
  rcases begins with ⟨body, after, isBody, rfl⟩
  exact ⟨body, after ++ rest, isBody, List.append_assoc ..⟩

theorem not_beginsBlock_nil : ¬BeginsBlock [] := by
  rintro ⟨body, rest, _, equal⟩
  simp [blockForm_append] at equal

theorem block?_eq_some_iff :
    block? text = some (body, rest) ↔ text = blockForm body ++ rest ∧ IsBody body := by
  constructor
  · intro found
    rcases block?_eq_some found with ⟨equal, nonempty, starless⟩
    exact ⟨equal, nonempty, starless⟩
  · rintro ⟨rfl, nonempty, starless⟩
    have opens : Text.dropPrefix? blockOpen (blockForm body ++ rest) =
        some (body ++ (blockClose ++ rest)) := by
      rw [Text.dropPrefix?_eq_some_iff]
      simp [blockForm]
    have plain : ∀ c ∈ body, decide (c ≠ '*') = true := by
      intro c mem
      simp only [decide_eq_true_eq]
      rintro rfl
      exact starless mem
    have inside : (body ++ (blockClose ++ rest)).takeWhile (· ≠ '*') = body := by
      rw [List.takeWhile_append_of_pos plain]
      simp [blockClose]
    have outside : (body ++ (blockClose ++ rest)).dropWhile (· ≠ '*') = blockClose ++ rest := by
      rw [List.dropWhile_append_of_pos plain]
      simp [blockClose]
    have closes : Text.dropPrefix? blockClose (blockClose ++ rest) = some rest :=
      Text.dropPrefix?_eq_some_iff.mpr rfl
    simp only [block?, opens, inside, outside, closes]
    cases body with
    | nil => exact absurd rfl nonempty
    | cons c body => rfl

theorem block?_blockForm_append (isBody : IsBody body) (rest : Text) :
    block? (blockForm body ++ rest) = some (body, rest) :=
  block?_eq_some_iff.mpr ⟨rfl, isBody⟩

theorem block?_eq_none_iff : block? text = none ↔ ¬BeginsBlock text := by
  constructor
  · rintro absent ⟨body, rest, isBody, rfl⟩
    simp [block?_blockForm_append isBody] at absent
  · intro absent
    cases found : block? text with
    | none => rfl
    | some block =>
        rcases block with ⟨body, rest⟩
        rcases block?_eq_some_iff.mp found with ⟨equal, isBody⟩
        exact absurd ⟨body, rest, isBody, equal⟩ absent

theorem not_holdsBlock_of_clearBefore (clear : ClearBefore stretch rest) :
    ¬HoldsBlock stretch := by
  rintro ⟨before, after, equal, begins⟩
  refine clear before after equal ?_ (begins.append rest)
  rintro rfl
  exact not_beginsBlock_nil begins

theorem clearBefore_nil (rest : Text) : ClearBefore [] rest := by
  intro before after equal nonempty
  simp_all

theorem ClearBefore.push {c : Char} (clear : ClearBefore stretch (c :: rest))
    (absent : ¬BeginsBlock (c :: rest)) : ClearBefore (stretch ++ [c]) rest := by
  intro before after equal nonempty
  rcases List.eq_nil_or_concat after with rfl | ⟨inner, last, rfl⟩
  · exact absurd rfl nonempty
  · rw [List.concat_eq_append, ← List.append_assoc] at equal
    rcases List.append_inj' equal rfl with ⟨stretchEq, lastEq⟩
    simp only [List.cons.injEq, and_true] at lastEq
    subst lastEq
    simp only [List.concat_eq_append, List.append_assoc, List.cons_append, List.nil_append]
    cases inner with
    | nil => simpa using absent
    | cons d inner => exact clear before (d :: inner) stretchEq (by simp)

@[simp]
theorem piecesAfter_nil (before : Text) : piecesAfter before [] = [.plain before.reverse] := by
  rw [piecesAfter]
  simp [block?, Text.dropPrefix?, blockOpen]

theorem piecesAfter_cons {c : Char} (before : Text) (absent : ¬BeginsBlock (c :: rest)) :
    piecesAfter before (c :: rest) = piecesAfter (c :: before) rest := by
  rw [piecesAfter]
  split
  · rename_i found
    simp [block?_eq_none_iff.mpr absent] at found
  · rfl

theorem piecesAfter_blockForm_append (before : Text) (isBody : IsBody body) (rest : Text) :
    piecesAfter before (blockForm body ++ rest) =
      .plain before.reverse :: .block body :: pieces rest := by
  rw [piecesAfter]
  split
  · rename_i found
    rw [block?_blockForm_append isBody] at found
    simp only [Option.some.injEq, Prod.mk.injEq] at found
    rcases found with ⟨rfl, rfl⟩
    rfl
  · rename_i found
    simp [block?_blockForm_append isBody] at found

theorem leftmostCut_piecesAfter (before text : Text) (clear : ClearBefore before.reverse text) :
    LeftmostCut (before.reverse ++ text) (piecesAfter before text) := by
  fun_induction piecesAfter before text with
  | case1 before text body rest found ih =>
      rcases block?_eq_some_iff.mp found with ⟨rfl, isBody⟩
      exact .block isBody clear (ih (clearBefore_nil rest))
  | case2 before found =>
      rw [List.append_nil]
      exact .last clear
  | case3 before c rest found ih =>
      have next := ih (by
        rw [List.reverse_cons]
        exact clear.push (block?_eq_none_iff.mp found))
      simpa using next

/-- The stretches of a text are its cut at the leftmost prose blocks. -/
theorem leftmostCut_pieces (text : Text) : LeftmostCut text (pieces text) :=
  leftmostCut_piecesAfter [] text (clearBefore_nil text)

/-- Characters at which no block begins are collected until the next block or the end. -/
theorem piecesAfter_append (before : Text) (clear : ClearBefore stretch rest) :
    piecesAfter before (stretch ++ rest) = piecesAfter (stretch.reverse ++ before) rest := by
  induction stretch generalizing before with
  | nil => rfl
  | cons c stretch ih =>
      have absent : ¬BeginsBlock (c :: (stretch ++ rest)) :=
        clear [] (c :: stretch) rfl (by simp)
      have clearTail : ClearBefore stretch rest := by
        intro start after equal nonempty
        exact clear (c :: start) after (by simp [equal]) nonempty
      rw [List.cons_append, piecesAfter_cons before absent, ih (c :: before) clearTail]
      simp

/-- A text has one cut at its leftmost prose blocks, the one that `pieces` finds. -/
theorem leftmostCut_iff {stretches : List Piece} :
    LeftmostCut text stretches ↔ pieces text = stretches := by
  constructor
  · intro cut
    induction cut with
    | @last stretch clear =>
        have collected := piecesAfter_append [] clear
        rw [List.append_nil] at collected
        simp [pieces, collected]
    | @block stretch body rest stretches isBody clear _ ih =>
        rw [pieces, piecesAfter_append [] clear, piecesAfter_blockForm_append _ isBody, ih]
        simp
  · rintro rfl
    exact leftmostCut_pieces text

/-- A stretch between prose blocks holds none. -/
theorem not_holdsBlock_of_mem_pieces (mem : .plain stretch ∈ pieces text) :
    ¬HoldsBlock stretch := by
  have cut := leftmostCut_pieces text
  generalize pieces text = stretches at cut mem
  induction cut with
  | last clear =>
      simp only [List.mem_singleton, Piece.plain.injEq] at mem
      subst mem
      exact not_holdsBlock_of_clearBefore clear
  | block isBody clear _ ih =>
      simp only [List.mem_cons, Piece.plain.injEq, reduceCtorEq, false_or] at mem
      rcases mem with rfl | mem
      · exact not_holdsBlock_of_clearBefore clear
      · exact ih mem

theorem isBody_of_mem_pieces (mem : .block body ∈ pieces text) : IsBody body := by
  have cut := leftmostCut_pieces text
  generalize pieces text = stretches at cut mem
  induction cut with
  | last clear => simp at mem
  | block isBody clear _ ih =>
      simp only [List.mem_cons, Piece.block.injEq, reduceCtorEq, false_or] at mem
      rcases mem with rfl | mem
      · exact isBody
      · exact ih mem

/-- A block that begins in a text and reaches into an opening after it would have to close with a
star that the text ends in, for its body cannot hold the stars of the opening. -/
theorem beginsBlock_of_append_blockOpen (nonempty : text ≠ [])
    (noStar : text.getLast? ≠ some '*')
    (begins : BeginsBlock (text ++ (blockOpen ++ rest))) : BeginsBlock text := by
  rcases begins with ⟨body, after, isBody, equal⟩
  rw [blockForm_append] at equal
  rcases text with _ | ⟨first, _ | ⟨second, _ | ⟨third, inner⟩⟩⟩
  · exact absurd rfl nonempty
  · simp [blockOpen] at equal
  · simp [blockOpen] at equal
  · simp only [blockOpen, List.cons_append, List.nil_append, List.cons.injEq] at equal
    rcases equal with ⟨rfl, rfl, rfl, equal⟩
    rcases List.append_eq_append_iff.mp equal with
      ⟨tail, bodyEq, openEq⟩ | ⟨tail, innerEq, closeEq⟩
    · have starless := isBody.star_notMem
      rcases tail with _ | ⟨slash, _ | ⟨star, tail⟩⟩
      · simp at openEq
      · simp at openEq
      · simp only [List.cons_append, List.cons.injEq] at openEq
        rcases openEq with ⟨_, rfl, _⟩
        simp [bodyEq] at starless
    · rcases tail with _ | ⟨star, _ | ⟨slash, tail⟩⟩
      · simp at closeEq
      · simp only [List.cons_append, List.nil_append, List.cons.injEq] at closeEq
        rcases closeEq with ⟨rfl, _⟩
        simp [innerEq, List.getLast?_cons] at noStar
      · simp only [List.cons_append, List.cons.injEq] at closeEq
        rcases closeEq with ⟨rfl, rfl, _⟩
        exact ⟨body, tail, isBody, by rw [blockForm_append, innerEq]⟩

theorem getLast?_ne_of_append (before : Text) {after : Text}
    (noStar : (before ++ after).getLast? ≠ some '*') : after.getLast? ≠ some '*' := by
  intro star
  apply noStar
  rw [List.getLast?_append, star]
  rfl

theorem piecesAfter_append_block (before : Text) (noStar : text.getLast? ≠ some '*')
    (isBody : IsBody body) (after : Text) :
    piecesAfter before (text ++ (blockForm body ++ after)) =
      piecesAfter before text ++ .block body :: pieces after := by
  fun_induction piecesAfter before text with
  | case1 before text inner rest found ih =>
      rcases block?_eq_some_iff.mp found with ⟨rfl, innerIsBody⟩
      rw [List.append_assoc, piecesAfter_blockForm_append before innerIsBody, pieces,
        ih (getLast?_ne_of_append _ noStar)]
      rfl
  | case2 before found =>
      rw [List.nil_append, piecesAfter_blockForm_append before isBody]
      rfl
  | case3 before c rest found ih =>
      have absent : ¬BeginsBlock (c :: (rest ++ (blockForm body ++ after))) := by
        intro begins
        have reaches :
            BeginsBlock (c :: rest ++ (blockOpen ++ (body ++ (blockClose ++ after)))) := by
          simpa [blockForm] using begins
        exact block?_eq_none_iff.mp found
          (beginsBlock_of_append_blockOpen (by simp) noStar reaches)
      rw [List.cons_append, piecesAfter_cons before absent]
      exact ih (getLast?_ne_of_append [c] noStar)

/-- A prose block cuts the text around it: what stands before it and what stands after it are cut as
if each stood alone. -/
theorem pieces_append_block (noStar : text.getLast? ≠ some '*') (isBody : IsBody body)
    (after : Text) :
    pieces (text ++ (blockForm body ++ after)) = pieces text ++ .block body :: pieces after :=
  piecesAfter_append_block [] noStar isBody after

end ScriptSite.Source
