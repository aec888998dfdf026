import ScriptSite.Proofs.Source.Segment

/-!
# Segments around a prose block

A prose block is a fixed point of the reading of a source. What stands before it is read as if the
source ended there, and what stands after it as if the source began there, but for the line numbers
of its code, which count on from the script so far (`segments_append_block`).

The cut into stretches is local by `pieces_append_block`, modelines are taken out of one stretch at
a time, and the line count is the only thing that reading hands on from one stretch to the next.
-/

namespace ScriptSite

theorem Segment.moveDown_moveDown (first second : Nat) (segment : Segment) :
    (segment.moveDown first).moveDown second = segment.moveDown (second + first) := by
  by_cases code : segment.kind = .code
  · simp [Segment.moveDown, code, Int.add_assoc, Int.add_comm]
  · simp [Segment.moveDown_of_ne_code, code]

namespace Source

variable {before body other : Text}

/-- The number of lines in the complete script of a source. -/
def scriptLength (text : Text) : Nat :=
  Text.newlines (completeScript (segments text))

/-- Whether the block with the given body is read as prose. -/
def YieldsProse (body : Text) : Prop :=
  ∃ text, segments (blockForm body) = [.prose text]

theorem cleanStretches_append_block (noStar : before.getLast? ≠ some '*') (isBody : IsBody body)
    (after : Text) :
    cleanStretches (before ++ (blockForm body ++ after)) =
      cleanStretches before ++ ([stripModelines (blockForm body)] ++ cleanStretches after) := by
  simp [cleanStretches, pieces_append_block noStar isBody, Piece.form]

@[simp]
theorem segmentsFrom_nil_cons (line : Nat) (rest : List Text) :
    segmentsFrom line ([] :: rest) = segmentsFrom line rest := by
  have blank : segmentOf? line [] = none := segmentOf?_eq_none_iff.mpr rfl
  simp [segmentsFrom, blank]

theorem cleanStretches_nil : cleanStretches [] = [[]] := by
  simp [cleanStretches, pieces, Piece.form]

/-- The source that is one block gives what its only stretch gives that is not empty. -/
theorem segments_blockForm (isBody : IsBody body) :
    segments (blockForm body) = segmentsFrom 0 [stripModelines (blockForm body)] := by
  have noStar : ([] : Text).getLast? ≠ some '*' := by simp
  have stretches := cleanStretches_append_block noStar isBody []
  rw [cleanStretches_nil, List.nil_append, List.append_nil] at stretches
  calc
    segments (blockForm body) =
        segmentsFrom 0 ([] :: ([stripModelines (blockForm body)] ++ [[]])) :=
      congrArg (segmentsFrom 0) stretches
    _ = segmentsFrom 0 ([stripModelines (blockForm body)] ++ [[]]) := segmentsFrom_nil_cons 0 _
    _ = segmentsFrom 0 [stripModelines (blockForm body)] := by
      rw [segmentsFrom_append, segmentsFrom_nil_cons, segmentsFrom, List.append_nil]

/-- A block is read as prose exactly if no modeline reaches its close. -/
theorem yieldsProse_iff (isBody : IsBody body) : YieldsProse body ↔ ¬EndsInModeline body := by
  rw [YieldsProse, segments_blockForm isBody]
  constructor
  · rintro ⟨text, equal⟩ ends
    have mem : .prose text ∈ segmentsFrom 0 [stripModelines (blockForm body)] := by simp [equal]
    rcases exists_shows_of_mem_segmentsFrom mem with ⟨line, stretch, stretchMem, shown⟩
    rw [List.mem_singleton] at stretchMem
    subst stretchMem
    exact kind_ne_prose_of_endsInModeline isBody ends shown rfl
  · intro stays
    refine ⟨stripModelines body, ?_⟩
    rw [segmentsFrom, segmentOf?_clean_block 0 isBody stays]
    rfl

/-- What is read from a source with a block in it, part by part. -/
theorem segments_around_block (noStar : before.getLast? ≠ some '*') (isBody : IsBody body)
    (after : Text) :
    segments (before ++ (blockForm body ++ after)) =
      segments before ++
        ((segments (blockForm body)).map (·.moveDown (scriptLength before)) ++
          (segments after).map
            (·.moveDown (scriptLength before + scriptLength (blockForm body)))) := by
  change segmentsFrom 0 (cleanStretches _) = _
  rw [cleanStretches_append_block noStar isBody, segmentsFrom_append, segmentsFrom_add,
    segmentsFrom_append, ← segments_blockForm isBody, segmentsFrom_add, List.map_append,
    List.map_map]
  congr 2
  apply List.map_congr_left
  intro segment _
  exact Segment.moveDown_moveDown _ _ segment

theorem completeScript_around_block (noStar : before.getLast? ≠ some '*') (isBody : IsBody body)
    (after : Text) :
    completeScript (segments (before ++ (blockForm body ++ after))) =
      completeScript (segments before) ++
        (completeScript (segments (blockForm body)) ++ completeScript (segments after)) := by
  rw [segments_around_block noStar isBody, completeScript_append, completeScript_append,
    completeScript_map_moveDown, completeScript_map_moveDown]

theorem completeScript_of_yieldsProse (yields : YieldsProse body) :
    completeScript (segments (blockForm body)) = [] := by
  rcases yields with ⟨text, equal⟩
  rw [equal, completeScript_singleton_of_ne_code]
  simp [Segment.prose]

theorem filter_around_block (noStar : before.getLast? ≠ some '*') (isBody : IsBody body)
    (yields : YieldsProse body) (after : Text) :
    (segments (before ++ (blockForm body ++ after))).filter (·.kind ≠ .prose) =
      (segments before).filter (·.kind ≠ .prose) ++
        ((segments after).map (·.moveDown (scriptLength before))).filter (·.kind ≠ .prose) := by
  have noLines : scriptLength (blockForm body) = 0 := by
    rw [scriptLength, completeScript_of_yieldsProse yields, Text.newlines_nil]
  rcases yields with ⟨text, equal⟩
  rw [segments_around_block noStar isBody, noLines, equal]
  simp [Segment.prose]

/-- Reading a source is local around a prose block: the three parts are read one by one, with the
lines of code counting on. In particular one block that is read as prose may take the place of
another, and no other segment and nothing of the script changes. -/
theorem segments_append_block (noStar : before.getLast? ≠ some '*') (isBody : IsBody body)
    (after : Text) :
    segments (before ++ (blockForm body ++ after)) =
        segments before ++
          ((segments (blockForm body)).map (·.moveDown (scriptLength before)) ++
            (segments after).map
              (·.moveDown (scriptLength before + scriptLength (blockForm body)))) ∧
      completeScript (segments (before ++ (blockForm body ++ after))) =
        completeScript (segments before) ++
          (completeScript (segments (blockForm body)) ++ completeScript (segments after)) ∧
      ∀ other, IsBody other → YieldsProse body → YieldsProse other →
        (segments (before ++ (blockForm other ++ after))).filter (·.kind ≠ .prose) =
            (segments (before ++ (blockForm body ++ after))).filter (·.kind ≠ .prose) ∧
          completeScript (segments (before ++ (blockForm other ++ after))) =
            completeScript (segments (before ++ (blockForm body ++ after))) := by
  refine ⟨segments_around_block noStar isBody after,
    completeScript_around_block noStar isBody after, ?_⟩
  intro other otherIsBody yields otherYields
  constructor
  · rw [filter_around_block noStar otherIsBody otherYields,
      filter_around_block noStar isBody yields]
  · rw [completeScript_around_block noStar otherIsBody, completeScript_around_block noStar isBody,
      completeScript_of_yieldsProse yields, completeScript_of_yieldsProse otherYields]

/-- One note takes the place of another between two lines of code. -/
theorem segments_append_block_note :
    "a();\n".toList.getLast? ≠ some '*' ∧ IsBody "note".toList ∧ IsBody "memo".toList ∧
      YieldsProse "note".toList ∧ YieldsProse "memo".toList ∧
      completeScript (segments ("a();\n".toList ++ (blockForm "memo".toList ++ "b();\n".toList))) =
        completeScript
          (segments ("a();\n".toList ++ (blockForm "note".toList ++ "b();\n".toList))) := by
  have noStar : "a();\n".toList.getLast? ≠ some '*' := by decide
  have noteIsBody : IsBody "note".toList := ⟨by decide, by decide⟩
  have memoIsBody : IsBody "memo".toList := ⟨by decide, by decide⟩
  have noteYields : YieldsProse "note".toList := (yieldsProse_iff noteIsBody).mpr fun ends =>
    absurd (newline_mem_of_endsInModeline ends) (by decide)
  have memoYields : YieldsProse "memo".toList := (yieldsProse_iff memoIsBody).mpr fun ends =>
    absurd (newline_mem_of_endsInModeline ends) (by decide)
  have replaced := (segments_append_block noStar noteIsBody "b();\n".toList).2.2 "memo".toList
    memoIsBody noteYields memoYields
  exact ⟨noStar, noteIsBody, memoIsBody, noteYields, memoYields, replaced.2⟩

end Source

end ScriptSite
