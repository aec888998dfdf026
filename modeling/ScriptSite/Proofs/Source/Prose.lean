import Mathlib.Data.List.Forall2
import Mathlib.Data.List.ReduceOption
import ScriptSite.Proofs.Source.Segment

/-!
# Prose and prose blocks

A source is cut at its prose blocks before modelines are taken out, and each stretch is looked at
once more afterwards. Prose is what the blocks hold only if the two looks agree, and they disagree
in two ways. A modeline on the last line of a block takes the close of the block with it, and the
rest of the block is read as code or sound. And a comment that is no block because of the stars in
its modelines is a block without them, and is read as prose.

`ProseIsBlocks` says that neither happens, and `proseIsBlocks_iff` that these two are the only ways:
no modeline may reach the end of the body of a block, and no stretch between blocks may turn into a
block.
-/

namespace ScriptSite.Source

/-- What each of some stretches gives. -/
def readingsFrom (line : Nat) : List Text → List (Option Segment)
  | [] => []
  | stretch :: rest =>
      segmentOf? line stretch ::
        readingsFrom (line + ((segmentOf? line stretch).map scriptLines).getD 0) rest

/-- What each stretch of a source gives, in the order of the source. -/
def readings (text : Text) : List (Option Segment) :=
  readingsFrom 0 (cleanStretches text)

theorem reduceOption_readingsFrom (line : Nat) (stretches : List Text) :
    (readingsFrom line stretches).reduceOption = segmentsFrom line stretches := by
  induction stretches generalizing line with
  | nil => rfl
  | cons stretch rest ih =>
      rw [readingsFrom, segmentsFrom]
      cases segmentOf? line stretch with
      | none =>
          rw [List.reduceOption_cons_of_none, ih]
          rfl
      | some segment =>
          rw [List.reduceOption_cons_of_some, ih]
          rfl

/-- The segments of a source are what its stretches give. -/
theorem reduceOption_readings (text : Text) : (readings text).reduceOption = segments text :=
  reduceOption_readingsFrom 0 (cleanStretches text)

/-- The bodies of the prose blocks of a source. -/
def blockBodies (text : Text) : List Text :=
  (pieces text).filterMap fun
    | .block body => some body
    | .plain _ => none

end ScriptSite.Source

namespace ScriptSite.Source.Piece

/-- Whether a stretch is read as prose exactly if it is a block, and then as the body of the block
without its modelines. -/
def ReadAsProse (piece : Piece) (given : Option Segment) : Prop :=
  match piece with
  | .block body => given = some (.prose (stripModelines body))
  | .plain _ => ∀ segment ∈ given, segment.kind ≠ .prose

/-- Whether a stretch is a block after its modelines are taken out exactly if it was one before. -/
def Sound : Piece → Prop
  | .block body => ¬EndsInModeline body
  | .plain stretch => ¬IsBlock (stripModelines stretch)

end ScriptSite.Source.Piece

namespace ScriptSite.Source

variable {text body stretch : Text} {stretches : List Piece} {segment : Segment}

/-- Whether the prose of a source is what its prose blocks hold. -/
def ProseIsBlocks (text : Text) : Prop :=
  List.Forall₂ Piece.ReadAsProse (pieces text) (readings text)

theorem readAsProse_block_iff (line : Nat) (isBody : IsBody body) :
    (Piece.block body).ReadAsProse (segmentOf? line (stripModelines (blockForm body))) ↔
      (Piece.block body).Sound := by
  simp only [Piece.ReadAsProse, Piece.Sound]
  constructor
  · intro prose ends
    exact kind_ne_prose_of_endsInModeline isBody ends (segmentOf?_eq_some_iff.mp prose) rfl
  · exact segmentOf?_clean_block line isBody

theorem readAsProse_plain_iff (line : Nat) (stretch : Text) :
    (Piece.plain stretch).ReadAsProse (segmentOf? line (stripModelines stretch)) ↔
      (Piece.plain stretch).Sound := by
  simp only [Piece.ReadAsProse, Piece.Sound, Option.mem_def]
  constructor
  · rintro notProse ⟨body, isBody, equal⟩
    rw [equal] at notProse
    exact notProse _ (segmentOf?_blockForm line isBody) rfl
  · intro notBlock segment found
    exact (text_eq_of_shows notBlock (segmentOf?_eq_some_iff.mp found)).1

theorem forall₂_readAsProse_iff (line : Nat)
    (bodies : ∀ body, .block body ∈ stretches → IsBody body) :
    List.Forall₂ Piece.ReadAsProse stretches
        (readingsFrom line (stretches.map fun piece => stripModelines piece.form)) ↔
      ∀ piece ∈ stretches, piece.Sound := by
  induction stretches generalizing line with
  | nil => simp [readingsFrom]
  | cons piece rest ih =>
      have restBodies : ∀ body, .block body ∈ rest → IsBody body :=
        fun body mem => bodies body (List.mem_cons_of_mem piece mem)
      have first : piece.ReadAsProse (segmentOf? line (stripModelines piece.form)) ↔
          piece.Sound := by
        cases piece with
        | plain stretch => exact readAsProse_plain_iff line stretch
        | block body => exact readAsProse_block_iff line (bodies body (by simp))
      rw [List.map_cons, readingsFrom, List.forall₂_cons, first, ih _ restBodies,
        List.forall_mem_cons]

/-- If stretches are read as prose exactly if they are blocks, the prose is that of the blocks. -/
theorem filter_prose_of_forall₂ {given : List (Option Segment)}
    (faithful : List.Forall₂ Piece.ReadAsProse stretches given) :
    given.reduceOption.filter (·.kind = .prose) =
      (stretches.filterMap fun
        | .block body => some body
        | .plain _ => none).map fun body => .prose (stripModelines body) := by
  induction faithful with
  | nil => rfl
  | @cons piece reading stretches given read _ ih =>
      cases piece with
      | block body =>
          simp only [Piece.ReadAsProse] at read
          subst read
          rw [List.reduceOption_cons_of_some]
          simp [ih, Segment.prose]
      | plain stretch =>
          simp only [Piece.ReadAsProse, Option.mem_def] at read
          cases reading with
          | none => simpa [List.reduceOption_cons_of_none] using ih
          | some segment =>
              rw [List.reduceOption_cons_of_some]
              simpa [read segment rfl] using ih

/-- Code comes from a stretch between blocks if every stretch is sound. -/
theorem exists_plain_of_code (sound : ∀ piece ∈ pieces text, piece.Sound)
    (mem : segment ∈ segments text) (code : segment.kind = .code) :
    ∃ stretch, .plain stretch ∈ pieces text ∧ segment.text = stripModelines stretch := by
  rcases exists_shows_of_mem_segmentsFrom mem with ⟨line, stretch, stretchMem, shown⟩
  rcases List.mem_map.mp stretchMem with ⟨piece, pieceMem, rfl⟩
  cases piece with
  | plain stretch => exact ⟨stretch, pieceMem, (text_eq_of_shows_code shown code).1⟩
  | block body =>
      have stays : ¬EndsInModeline body := sound _ pieceMem
      have found := segmentOf?_eq_some_iff.mpr shown
      rw [Piece.form, segmentOf?_clean_block line (isBody_of_mem_pieces pieceMem) stays,
        Option.some.injEq] at found
      subst found
      simp [Segment.prose] at code

/-- Prose is what the leftmost prose blocks hold exactly if no modeline reaches the close of a block
and no stretch between blocks turns into a block. Then the prose segments are the bodies of the
blocks, one by one and in order, and no block turns up as code. -/
theorem proseIsBlocks_iff (text : Text) :
    LeftmostCut text (pieces text) ∧ (readings text).reduceOption = segments text ∧
      (ProseIsBlocks text ↔ ∀ piece ∈ pieces text, piece.Sound) ∧
      (ProseIsBlocks text →
        (segments text).filter (·.kind = .prose) =
            (blockBodies text).map (fun body => .prose (stripModelines body)) ∧
          ∀ segment ∈ segments text, segment.kind = .code →
            ∃ stretch, .plain stretch ∈ pieces text ∧
              segment.text = stripModelines stretch) := by
  have exact_iff : ProseIsBlocks text ↔ ∀ piece ∈ pieces text, piece.Sound :=
    forall₂_readAsProse_iff 0 fun body mem => isBody_of_mem_pieces mem
  refine ⟨leftmostCut_pieces text, reduceOption_readings text, exact_iff, ?_⟩
  intro faithful
  constructor
  · rw [← reduceOption_readings]
    exact filter_prose_of_forall₂ faithful
  · intro segment mem code
    exact exists_plain_of_code (exact_iff.mp faithful) mem code

/-- A modeline on the last line of a block takes the close with it, and the block turns up as code
in the complete script. -/
theorem segments_of_modeline_over_close :
    blockBodies "/**\n# T\n// vim: ft=markdown */\nfoo();\n".toList =
        ["\n# T\n// vim: ft=markdown ".toList] ∧
      segments "/**\n# T\n// vim: ft=markdown */\nfoo();\n".toList =
        [.code "/**\n# T".toList 0, .code "\nfoo();\n".toList 3] := by
  constructor <;> cbv

/- A comment with a star in its modeline is no block, and is read as prose. -/
example : segments "/**\n# T\n// vim: *\n*/".toList = [.prose "\n# T\n".toList] := by cbv

end ScriptSite.Source
