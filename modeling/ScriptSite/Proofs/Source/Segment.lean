import ScriptSite.Proofs.Source.Modeline
import ScriptSite.Proofs.Text.Lines
import ScriptSite.Proofs.Text.Trim
import ScriptSite.Source.Segment

/-!
# Segments of a list of stretches

`Shows` lists the segments that a stretch can give, and `segmentOf?` is settled by it once for all:
a stretch gives the segment that it shows (`segmentOf?_eq_some_iff`), and none if it is blank
(`segmentOf?_eq_none_iff`).

The segments of a list of stretches are then read from left to right with a line count. Reading
splits where the list splits (`segmentsFrom_append`), starting further down moves every code segment
by as many lines (`segmentsFrom_add`), and the line of a code segment is the number of newlines in
the complete script of the segments before it (`firstLine_eq_newlines`).
-/

namespace ScriptSite

namespace Segment

/-- The segment with its first line moved down by `count` lines if it is code. -/
def moveDown (count : Nat) (segment : Segment) : Segment :=
  if segment.kind = .code then { segment with firstLine := segment.firstLine + count }
  else segment

@[simp]
theorem kind_moveDown (count : Nat) (segment : Segment) :
    (segment.moveDown count).kind = segment.kind := by
  rw [moveDown]
  split <;> rfl

@[simp]
theorem text_moveDown (count : Nat) (segment : Segment) :
    (segment.moveDown count).text = segment.text := by
  rw [moveDown]
  split <;> rfl

theorem moveDown_of_ne_code {segment : Segment} (notCode : segment.kind ≠ .code) (count : Nat) :
    segment.moveDown count = segment := by
  simp [moveDown, notCode]

end Segment

namespace Source

variable {line : Nat} {text stretch body : Text} {segment : Segment}

/-- The stretches of a source without their modelines. -/
def cleanStretches (text : Text) : List Text :=
  (pieces text).map fun piece => stripModelines piece.form

/-- Whether a text is one prose block and nothing else. -/
def IsBlock (text : Text) : Prop :=
  ∃ body, IsBody body ∧ text = blockForm body

/-- The segments that a stretch can give when the complete script already has `line` lines. -/
inductive Shows (line : Nat) : Text → Segment → Prop
  | prose {body : Text} (isBody : IsBody body) : Shows line (blockForm body) (.prose body)
  | audio {stretch source : Text} (notBlock : ¬IsBlock stretch)
      (visible : Text.allBlank stretch = false) (found : audioSource? stretch = some source) :
      Shows line stretch (.audio stretch source)
  | code {stretch : Text} (notBlock : ¬IsBlock stretch) (visible : Text.allBlank stretch = false)
      (silent : audioSource? stretch = none) : Shows line stretch (.code stretch line)

theorem wholeBlock?_eq_some_iff :
    wholeBlock? text = some body ↔ text = blockForm body ∧ IsBody body := by
  constructor
  · intro found
    rw [wholeBlock?] at found
    split at found
    · rename_i inner blockFound
      simp only [Option.some.injEq] at found
      subst found
      rcases block?_eq_some_iff.mp blockFound with ⟨equal, isBody⟩
      exact ⟨by simpa using equal, isBody⟩
    · simp at found
  · rintro ⟨rfl, isBody⟩
    have found := block?_blockForm_append isBody []
    rw [List.append_nil] at found
    simp [wholeBlock?, found]

theorem wholeBlock?_eq_none_iff : wholeBlock? text = none ↔ ¬IsBlock text := by
  constructor
  · rintro absent ⟨body, isBody, equal⟩
    simp [wholeBlock?_eq_some_iff.mpr ⟨equal, isBody⟩] at absent
  · intro notBlock
    cases found : wholeBlock? text with
    | none => rfl
    | some body =>
        rcases wholeBlock?_eq_some_iff.mp found with ⟨equal, isBody⟩
        exact absurd ⟨body, isBody, equal⟩ notBlock

/-- An opening without a star behind it is not a block. -/
theorem not_isBlock_blockOpen_append (starless : '*' ∉ body) : ¬IsBlock (blockOpen ++ body) := by
  rintro ⟨inner, _, equal⟩
  simp only [blockForm, List.append_assoc, List.append_cancel_left_eq] at equal
  simp [equal, blockClose] at starless

theorem allBlank_of_blockOpen (rest : Text) : Text.allBlank (blockOpen ++ rest) = false := by
  rw [Text.allBlank_eq_false_iff]
  exact ⟨'/', by simp [blockOpen], rfl⟩

/-- A stretch gives exactly the segment that it shows. -/
theorem segmentOf?_eq_some_iff :
    segmentOf? line stretch = some segment ↔ Shows line stretch segment := by
  constructor
  · intro found
    rw [segmentOf?] at found
    split at found
    · rename_i body whole
      simp only [Option.some.injEq] at found
      subst found
      rcases wholeBlock?_eq_some_iff.mp whole with ⟨rfl, isBody⟩
      exact .prose isBody
    · rename_i whole
      have notBlock := wholeBlock?_eq_none_iff.mp whole
      split at found
      · simp at found
      · rename_i visible
        simp only [Bool.not_eq_true] at visible
        split at found
        · rename_i source directive
          simp only [Option.some.injEq] at found
          subst found
          exact .audio notBlock visible directive
        · rename_i silent
          simp only [Option.some.injEq] at found
          subst found
          exact .code notBlock visible silent
  · intro shown
    cases shown with
    | prose isBody => simp [segmentOf?, wholeBlock?_eq_some_iff.mpr ⟨rfl, isBody⟩]
    | audio notBlock visible found =>
        simp [segmentOf?, wholeBlock?_eq_none_iff.mpr notBlock, visible, found]
    | code notBlock visible silent =>
        simp [segmentOf?, wholeBlock?_eq_none_iff.mpr notBlock, visible, silent]

/-- A stretch gives no segment exactly if it is blank. -/
theorem segmentOf?_eq_none_iff :
    segmentOf? line stretch = none ↔ Text.allBlank stretch = true := by
  rw [segmentOf?]
  split
  · rename_i body whole
    rcases wholeBlock?_eq_some_iff.mp whole with ⟨rfl, isBody⟩
    simp [blockForm, allBlank_of_blockOpen]
  · split
    · rename_i blank
      simp [blank]
    · rename_i visible
      split <;> simp [visible]

theorem segmentOf?_blockForm (line : Nat) (isBody : IsBody body) :
    segmentOf? line (blockForm body) = some (.prose body) :=
  segmentOf?_eq_some_iff.mpr (.prose isBody)

/-- A stretch that is no block is shown whole, and not as prose. -/
theorem text_eq_of_shows (notBlock : ¬IsBlock stretch) (shown : Shows line stretch segment) :
    segment.kind ≠ .prose ∧ segment.text = stretch := by
  cases shown with
  | @prose body isBody => exact absurd ⟨body, isBody, rfl⟩ notBlock
  | audio => exact ⟨by simp [Segment.audio], rfl⟩
  | code => exact ⟨by simp [Segment.code], rfl⟩

/-- Code is a whole stretch that is not blank. -/
theorem text_eq_of_shows_code (shown : Shows line stretch segment) (code : segment.kind = .code) :
    segment.text = stretch ∧ Text.allBlank stretch = false := by
  cases shown with
  | prose => simp [Segment.prose] at code
  | audio => simp [Segment.audio] at code
  | code _ visible => exact ⟨rfl, visible⟩

/-- A block that no modeline leaves is read as prose. -/
theorem segmentOf?_clean_block (line : Nat) (isBody : IsBody body) (stays : ¬EndsInModeline body) :
    segmentOf? line (stripModelines (blockForm body)) = some (.prose (stripModelines body)) := by
  rw [stripModelines_blockForm stays]
  exact segmentOf?_blockForm line (isBody_stripModelines isBody stays)

/-- A block whose close goes with a modeline is not read as prose. -/
theorem kind_ne_prose_of_endsInModeline (isBody : IsBody body) (ends : EndsInModeline body)
    (shown : Shows line (stripModelines (blockForm body)) segment) : segment.kind ≠ .prose := by
  rw [stripModelines_blockForm_of_endsInModeline ends] at shown
  have notBlock := not_isBlock_blockOpen_append (star_notMem_stripModelines isBody.star_notMem)
  exact (text_eq_of_shows notBlock shown).1

theorem segmentOf?_add (line count : Nat) (stretch : Text) :
    segmentOf? (line + count) stretch = (segmentOf? line stretch).map (·.moveDown count) := by
  cases found : segmentOf? line stretch with
  | none => exact segmentOf?_eq_none_iff.mpr (segmentOf?_eq_none_iff.mp found)
  | some segment =>
      rw [Option.map_some, segmentOf?_eq_some_iff]
      cases segmentOf?_eq_some_iff.mp found with
      | prose isBody => exact .prose isBody
      | audio notBlock visible directive => exact .audio notBlock visible directive
      | code notBlock visible silent => exact .code notBlock visible silent

@[simp]
theorem completeScript_nil : completeScript [] = [] := rfl

@[simp]
theorem completeScript_append (left right : List Segment) :
    completeScript (left ++ right) = completeScript left ++ completeScript right := by
  simp [completeScript]

theorem completeScript_cons (segment : Segment) (rest : List Segment) :
    completeScript (segment :: rest) = completeScript [segment] ++ completeScript rest :=
  completeScript_append [segment] rest

theorem completeScript_singleton_of_code (code : segment.kind = .code) :
    completeScript [segment] = scriptChunk segment.text := by
  simp [completeScript, code]

theorem completeScript_singleton_of_ne_code (notCode : segment.kind ≠ .code) :
    completeScript [segment] = [] := by
  simp [completeScript, notCode]

theorem completeScript_map_moveDown (count : Nat) (segments : List Segment) :
    completeScript (segments.map (·.moveDown count)) = completeScript segments := by
  induction segments with
  | nil => rfl
  | cons segment rest ih =>
      rw [List.map_cons, completeScript_cons, ih, completeScript_cons segment rest]
      congr 1
      by_cases code : segment.kind = .code
      · simp [completeScript_singleton_of_code, code]
      · simp [completeScript_singleton_of_ne_code, code]

theorem closed_completeScript (segments : List Segment) :
    Text.Closed (completeScript segments) := by
  induction segments with
  | nil => exact Text.closed_nil
  | cons segment rest ih =>
      rw [completeScript_cons]
      refine Text.Closed.append ?_ ih
      by_cases code : segment.kind = .code
      · rw [completeScript_singleton_of_code code, scriptChunk]
        exact Or.inr ⟨scriptBody segment.text ++ ['\n'], by simp⟩
      · rw [completeScript_singleton_of_ne_code code]
        exact Text.closed_nil

theorem scriptLines_eq_newlines (segment : Segment) :
    scriptLines segment = Text.newlines (completeScript [segment]) := by
  by_cases code : segment.kind = .code
  · simp [scriptLines, code, completeScript_singleton_of_code]
  · rw [completeScript_singleton_of_ne_code code, scriptLines]
    split
    · rename_i isCode
      exact absurd isCode code
    · rfl

theorem scriptLines_moveDown (count : Nat) (segment : Segment) :
    scriptLines (segment.moveDown count) = scriptLines segment := by
  simp [scriptLines]

/-- Reading two lists of stretches one after the other counts on from the script of the first. -/
theorem segmentsFrom_append (line : Nat) (first second : List Text) :
    segmentsFrom line (first ++ second) =
      segmentsFrom line first ++
        segmentsFrom (line + Text.newlines (completeScript (segmentsFrom line first))) second := by
  induction first generalizing line with
  | nil => rfl
  | cons stretch first ih =>
      rw [List.cons_append, segmentsFrom, segmentsFrom]
      split
      · rw [ih]
      · rename_i segment found
        rw [ih, completeScript_cons, Text.newlines_append, ← scriptLines_eq_newlines]
        simp [Nat.add_assoc]

/-- Reading stretches further down moves the code segments and changes nothing else. -/
theorem segmentsFrom_add (line count : Nat) (stretches : List Text) :
    segmentsFrom (line + count) stretches =
      (segmentsFrom line stretches).map (·.moveDown count) := by
  induction stretches generalizing line with
  | nil => rfl
  | cons stretch rest ih =>
      rw [segmentsFrom, segmentsFrom, segmentOf?_add]
      cases segmentOf? line stretch with
      | none => exact ih line
      | some segment =>
          simp only [Option.map_some, List.map_cons, List.cons.injEq, true_and]
          rw [scriptLines_moveDown, Nat.add_right_comm, ih]

theorem exists_shows_of_mem_segmentsFrom {stretches : List Text}
    (mem : segment ∈ segmentsFrom line stretches) :
    ∃ start, ∃ stretch ∈ stretches, Shows start stretch segment := by
  induction stretches generalizing line with
  | nil => simp [segmentsFrom] at mem
  | cons stretch rest ih =>
      rw [segmentsFrom] at mem
      split at mem
      · rcases ih mem with ⟨start, found, foundMem, shown⟩
        exact ⟨start, found, List.mem_cons_of_mem stretch foundMem, shown⟩
      · rename_i first found
        rcases List.mem_cons.mp mem with rfl | later
        · exact ⟨line, stretch, by simp, segmentOf?_eq_some_iff.mp found⟩
        · rcases ih later with ⟨start, other, otherMem, shown⟩
          exact ⟨start, other, List.mem_cons_of_mem stretch otherMem, shown⟩

/-- The line of a code segment is the number of newlines in the script of the segments before it. -/
theorem firstLine_eq_newlines {stretches : List Text} {before after : List Segment}
    (split : segmentsFrom line stretches = before ++ segment :: after)
    (code : segment.kind = .code) :
    segment.firstLine = (line + Text.newlines (completeScript before) : Nat) := by
  induction stretches generalizing line before with
  | nil => simp [segmentsFrom] at split
  | cons stretch rest ih =>
      rw [segmentsFrom] at split
      cases found : segmentOf? line stretch with
      | none =>
          rw [found] at split
          exact ih split
      | some first =>
          rw [found] at split
          cases before with
          | nil =>
              simp only [List.nil_append, List.cons.injEq] at split
              rcases split with ⟨rfl, _⟩
              cases segmentOf?_eq_some_iff.mp found with
              | prose => simp [Segment.prose] at code
              | audio => simp [Segment.audio] at code
              | code => simp [Segment.code]
          | cons earlier before =>
              simp only [List.cons_append, List.cons.injEq] at split
              rcases split with ⟨rfl, tailSplit⟩
              rw [ih tailSplit, scriptLines_eq_newlines, completeScript_cons first before]
              simp [Nat.add_assoc]

end Source

end ScriptSite
