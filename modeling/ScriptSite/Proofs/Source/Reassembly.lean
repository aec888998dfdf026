import Mathlib.Data.List.Chain
import ScriptSite.Proofs.Source.Segment

/-!
# A source put together again

A source without modelines can be put together again from its segments. Each prose segment stands
for its block and every other segment for its own text, and all that is missing are the blank
stretches next to blocks, from which no segment is made. `Reassembles` says this of any segments and
text; that it holds of a source is an induction along its cut at the prose blocks.
-/

namespace ScriptSite

/-- The part of a source that a segment stands for. -/
def Segment.sourceForm (segment : Segment) : Text :=
  match segment.kind with
  | .prose => Source.blockForm segment.text
  | _ => segment.text

namespace Source

variable {text rest body : Text} {gaps : List Text} {parts : List Segment} {segment : Segment}

/-- Whether some segments and the blank gaps around them make up a text. -/
structure Reassembles (gaps : List Text) (parts : List Segment) (text : Text) : Prop where
  /-- There is a gap before the first segment and one after each segment. -/
  length_eq : gaps.length = parts.length + 1
  blank : ∀ gap ∈ gaps, Text.allBlank gap = true
  /-- Gaps and segments in turn give the text. -/
  flatten_eq :
    (List.zipWith (· ++ ·) gaps (parts.map Segment.sourceForm ++ [[]])).flatten = text
  /-- A segment that is not prose keeps the blanks around it. -/
  tight : ∀ i segment, parts[i]? = some segment → segment.kind ≠ .prose →
    gaps[i]? = some [] ∧ gaps[i + 1]? = some []
  /-- A segment that is not prose hides no prose block. -/
  blockless : ∀ segment ∈ parts, segment.kind ≠ .prose → ¬HoldsBlock segment.text
  /-- Of two neighbours one is prose. -/
  apart : parts.IsChain fun left right : Segment => left.kind = .prose ∨ right.kind = .prose

theorem reassembles_gap {gap : Text} (blank : Text.allBlank gap = true) :
    Reassembles [gap] [] gap where
  length_eq := rfl
  blank := by simp [blank]
  flatten_eq := by simp
  tight := by simp
  blockless := by simp
  apart := List.isChain_nil

theorem Reassembles.cons_prose {gap : Text} (blank : Text.allBlank gap = true) (body : Text)
    (reassembles : Reassembles gaps parts rest) :
    Reassembles (gap :: gaps) (.prose body :: parts) (gap ++ (blockForm body ++ rest)) where
  length_eq := by simp [reassembles.length_eq]
  blank := by simpa [blank] using reassembles.blank
  flatten_eq := by
    rw [← reassembles.flatten_eq]
    simp [Segment.sourceForm, Segment.prose]
  tight := by
    intro i segment found notProse
    cases i with
    | zero =>
        simp only [List.getElem?_cons_zero, Option.some.injEq] at found
        subst found
        simp [Segment.prose] at notProse
    | succ i => exact reassembles.tight i segment found notProse
  blockless := by
    intro segment mem notProse
    rcases List.mem_cons.mp mem with rfl | later
    · simp [Segment.prose] at notProse
    · exact reassembles.blockless segment later notProse
  apart := by
    rw [List.isChain_cons]
    exact ⟨fun _ _ => Or.inl rfl, reassembles.apart⟩

theorem Reassembles.cons_other (notProse : segment.kind ≠ .prose)
    (blockless : ¬HoldsBlock segment.text)
    (neighbour : ∀ next ∈ parts.head?, next.kind = .prose)
    (reassembles : Reassembles ([] :: gaps) parts rest) :
    Reassembles ([] :: [] :: gaps) (segment :: parts) (segment.text ++ rest) where
  length_eq := by simpa using reassembles.length_eq
  blank := by simpa using reassembles.blank
  flatten_eq := by
    have form : segment.sourceForm = segment.text := by
      rw [Segment.sourceForm]
      split
      · rename_i prose
        exact absurd prose notProse
      · rfl
    rw [← reassembles.flatten_eq]
    simp [form]
  tight := by
    intro i other found otherNotProse
    cases i with
    | zero => simp
    | succ i => exact reassembles.tight i other found otherNotProse
  blockless := by
    intro other mem otherNotProse
    rcases List.mem_cons.mp mem with rfl | later
    · exact blockless
    · exact reassembles.blockless other later otherNotProse
  apart := by
    rw [List.isChain_cons]
    exact ⟨fun next head => Or.inr (neighbour next head), reassembles.apart⟩

theorem not_isBlock_of_not_holdsBlock (blockless : ¬HoldsBlock text) : ¬IsBlock text := by
  rintro ⟨body, isBody, rfl⟩
  exact blockless ⟨[], blockForm body, rfl, body, [], isBody, (List.append_nil _).symm⟩

/-- Reading the stretches of a cut as they stand gives segments that make up the text again. -/
theorem exists_reassembles_of_leftmostCut {stretches : List Piece} (line : Nat)
    (cut : LeftmostCut text stretches) :
    ∃ gaps, Reassembles gaps (segmentsFrom line (stretches.map Piece.form)) text := by
  induction cut generalizing line with
  | @last stretch clear =>
      have blockless := not_holdsBlock_of_clearBefore clear
      have notBlock := not_isBlock_of_not_holdsBlock blockless
      cases found : segmentOf? line stretch with
      | none =>
          have blank := segmentOf?_eq_none_iff.mp found
          refine ⟨[stretch], ?_⟩
          simpa [segmentsFrom, Piece.form, found] using reassembles_gap blank
      | some segment =>
          rcases text_eq_of_shows notBlock (segmentOf?_eq_some_iff.mp found) with
            ⟨notProse, rfl⟩
          refine ⟨[[], []], ?_⟩
          have nothing : Reassembles [[]] [] [] := reassembles_gap rfl
          have alone := nothing.cons_other notProse blockless (by simp)
          simpa [segmentsFrom, Piece.form, found] using alone
  | @block stretch body rest stretches isBody clear _ ih =>
      have blockless := not_holdsBlock_of_clearBefore clear
      have notBlock := not_isBlock_of_not_holdsBlock blockless
      cases found : segmentOf? line stretch with
      | none =>
          have blank := segmentOf?_eq_none_iff.mp found
          rcases ih line with ⟨gaps, reassembles⟩
          refine ⟨stretch :: gaps, ?_⟩
          have whole := reassembles.cons_prose blank body
          simpa [segmentsFrom, Piece.form, found, segmentOf?_blockForm line isBody, scriptLines,
            Segment.prose] using whole
      | some segment =>
          rcases text_eq_of_shows notBlock (segmentOf?_eq_some_iff.mp found) with
            ⟨notProse, rfl⟩
          rcases ih (line + scriptLines segment) with ⟨gaps, reassembles⟩
          refine ⟨[] :: [] :: gaps, ?_⟩
          have noGap : Text.allBlank [] = true := rfl
          have tail := reassembles.cons_prose noGap body
          have whole := tail.cons_other notProse blockless (by simp [Segment.prose])
          simpa [segmentsFrom, Piece.form, found, segmentOf?_blockForm _ isBody, scriptLines,
            Segment.prose] using whole

theorem cleanStretches_of_not_infix (noWord : ¬['v', 'i', 'm', ':'] <:+: text) :
    cleanStretches text = (pieces text).map Piece.form := by
  apply List.map_congr_left
  intro piece mem
  apply stripModelines_of_not_infix
  intro word
  have inside := List.infix_of_mem_flatten (List.mem_map_of_mem (f := Piece.form) mem)
  rw [flatten_pieces] at inside
  exact noWord (word.trans inside)

/-- No part of a source without modelines is lost, doubled or moved: its segments, with blank gaps
between them, make it up again. -/
theorem exists_reassembles (noWord : ¬['v', 'i', 'm', ':'] <:+: text) :
    ∃ gaps, Reassembles gaps (segments text) text := by
  have whole := exists_reassembles_of_leftmostCut 0 (leftmostCut_pieces text)
  rw [← cleanStretches_of_not_infix noWord] at whole
  exact whole

/-- Behind a block, a body that ends like one is code, and the blank before the next block is
kept with it. -/
theorem exists_reassembles_overlap :
    ¬['v', 'i', 'm', ':'] <:+: "/**a*/**b*/ /**c*/".toList ∧
      ∃ gaps, Reassembles gaps (segments "/**a*/**b*/ /**c*/".toList)
        "/**a*/**b*/ /**c*/".toList := by
  have noWord : ¬['v', 'i', 'm', ':'] <:+: "/**a*/**b*/ /**c*/".toList := by
    intro word
    have mem := word.mem (by decide : 'v' ∈ ['v', 'i', 'm', ':'])
    revert mem
    decide
  exact ⟨noWord, exists_reassembles noWord⟩

end Source

end ScriptSite
