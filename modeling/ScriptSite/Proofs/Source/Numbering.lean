import Mathlib.Data.List.Chain
import ScriptSite.Page.Fragment
import ScriptSite.Proofs.Source.Chunk
import ScriptSite.Proofs.Source.Segment

/-!
# Line numbers of code

The number that a block of code shows is computed while the source is read, from the code read so
far. The complete script is put together afterwards, from the finished segments. The two agree: the
body of each code segment stands in the complete script on the very line that the segment carries.

Everything follows from one fact about the code segments alone, `firstLine_eq_of_code_split`: the
line of each is the number of newlines in the script of those before it.
-/

namespace ScriptSite.Source

variable {text : Text} {segment : Segment}

/-- The code among some segments. -/
def codeSegments (segments : List Segment) : List Segment :=
  segments.filter (·.kind = .code)

theorem mem_codeSegments {segments : List Segment} :
    segment ∈ codeSegments segments ↔ segment ∈ segments ∧ segment.kind = .code := by
  simp [codeSegments]

theorem completeScript_codeSegments (segments : List Segment) :
    completeScript (codeSegments segments) = completeScript segments := by
  simp [completeScript, codeSegments]

theorem allBlank_of_mem_codeSegments (mem : segment ∈ codeSegments (segments text)) :
    Text.allBlank segment.text = false := by
  rcases mem_codeSegments.mp mem with ⟨segmentMem, code⟩
  rcases exists_shows_of_mem_segmentsFrom segmentMem with ⟨start, stretch, _, shown⟩
  rcases text_eq_of_shows_code shown code with ⟨rfl, visible⟩
  exact visible

theorem scriptBody_ne_nil {code : Text} (visible : Text.allBlank code = false) :
    scriptBody code ≠ [] := by
  have bodyVisible := allBlank_scriptBody visible
  intro empty
  simp [empty, Text.allBlank] at bodyVisible

/-- The line of a code segment is the number of newlines in the script of the code before it. -/
theorem firstLine_eq_of_code_split {before after : List Segment}
    (split : codeSegments (segments text) = before ++ segment :: after) :
    segment.firstLine = Text.newlines (completeScript before) := by
  rcases List.filter_eq_append_iff.mp split with ⟨left, right, whole, leftEq, rightEq⟩
  rcases List.filter_eq_cons_iff.mp rightEq with ⟨skipped, tail, rightSplit, noCode, code, _⟩
  have wholeSplit : segments text = (left ++ skipped) ++ segment :: tail := by
    rw [whole, rightSplit, List.append_assoc]
  have skippedEmpty : codeSegments skipped = [] := List.filter_eq_nil_iff.mpr noCode
  have scriptEq : completeScript (left ++ skipped) = completeScript before := by
    rw [completeScript_append, ← completeScript_codeSegments skipped, skippedEmpty,
      completeScript_nil, List.append_nil, ← completeScript_codeSegments left]
    exact congrArg completeScript leftEq
  have counted := firstLine_eq_newlines wholeSplit (by simpa using code)
  rw [counted, scriptEq, Nat.zero_add]

theorem newlines_scriptChunk (code : Text) :
    Text.newlines (scriptChunk code) = (Text.lines (scriptBody code)).length + 1 := by
  simp [scriptChunk, Text.length_lines]

theorem completeScript_cons_code (code : segment.kind = .code) (rest : List Segment) :
    completeScript (segment :: rest) =
      scriptBody segment.text ++ ['\n', '\n'] ++ completeScript rest := by
  rw [completeScript_cons, completeScript_singleton_of_code code, scriptChunk]

/-- The lines of a script of code are the lines of the bodies, each body with one empty line after
it, and the empty rest behind the last newline. -/
theorem lines_completeScript {codes : List Segment}
    (allCode : ∀ segment ∈ codes, segment.kind = .code) :
    Text.lines (completeScript codes) =
      codes.flatMap (fun segment => Text.lines (scriptBody segment.text) ++ [[]]) ++ [[]] := by
  induction codes with
  | nil => rfl
  | cons segment rest ih =>
      rw [completeScript_cons_code (allCode segment (by simp)), Text.lines_append_blank_line,
        ih (fun other mem => allCode other (by simp [mem]))]
      simp

/-- Whether code segments carry the line numbers that their bodies have in a script. -/
structure NumbersLines (codes : List Segment) (script : Text) : Prop where
  /-- No segment is without lines of its own. -/
  body_ne_nil : ∀ segment ∈ codes, scriptBody segment.text ≠ []
  /-- Each body stands on the line that the segment carries, which its block of code shows. -/
  standsAt : ∀ segment ∈ codes, ∃ line : Nat,
    segment.firstLine = line ∧ segment.html = .ok (Page.codeBlock segment.text line) ∧
      Text.StandsAt (scriptBody segment.text) script line
  /-- Numbering begins at zero. -/
  first : ∀ segment ∈ codes.head?, segment.firstLine = 0
  /-- Each segment goes on one line after the last line of the one before. -/
  next : codes.IsChain fun earlier later : Segment =>
    later.firstLine = earlier.firstLine + (Text.lines (scriptBody earlier.text)).length + 1
  increasing : codes.Pairwise fun earlier later => earlier.firstLine < later.firstLine
  /-- The script holds the bodies and the empty lines between them, and nothing else. -/
  lines_eq : Text.lines script =
    codes.flatMap (fun segment => Text.lines (scriptBody segment.text) ++ [[]]) ++ [[]]
  script_eq_nil : codes = [] → script = []

theorem isChain_codeSegments (text : Text) :
    (codeSegments (segments text)).IsChain fun earlier later : Segment =>
      later.firstLine = earlier.firstLine + (Text.lines (scriptBody earlier.text)).length + 1 := by
  rw [List.isChain_iff_forall_rel_of_append_cons_cons]
  intro earlier later before after split
  have earlierLine := firstLine_eq_of_code_split split
  have laterSplit : codeSegments (segments text) = (before ++ [earlier]) ++ later :: after := by
    rw [split, List.append_assoc]
    rfl
  have laterLine := firstLine_eq_of_code_split laterSplit
  have earlierCode : earlier.kind = .code :=
    (mem_codeSegments.mp (by rw [split]; simp : earlier ∈ codeSegments (segments text))).2
  rw [laterLine, earlierLine, completeScript_append,
    completeScript_singleton_of_code earlierCode, Text.newlines_append, newlines_scriptChunk]
  omega

/-- The line number that each code segment carries is its true line in the complete script. -/
theorem numbersLines_completeScript (text : Text) :
    NumbersLines (codeSegments (segments text)) (completeScript (segments text)) := by
  have chain := isChain_codeSegments text
  refine ⟨?_, ?_, ?_, chain, ?_, ?_, ?_⟩
  · intro segment mem
    exact scriptBody_ne_nil (allBlank_of_mem_codeSegments mem)
  · intro segment mem
    have code := (mem_codeSegments.mp mem).2
    rcases List.append_of_mem mem with ⟨before, after, split⟩
    have line := firstLine_eq_of_code_split split
    refine ⟨_, line, ?_, ?_⟩
    · rw [Segment.html, code, line]
    · have place := Text.standsAt_of_closed (closed_completeScript before)
        (scriptBody segment.text) (completeScript after)
      rwa [← completeScript_cons_code code, ← completeScript_append, ← split,
        completeScript_codeSegments] at place
  · intro segment head
    rcases List.head?_eq_some_iff.mp head with ⟨rest, split⟩
    have line := firstLine_eq_of_code_split (split.trans (List.nil_append _).symm)
    simpa using line
  · have increasing : (codeSegments (segments text)).IsChain fun earlier later : Segment =>
        earlier.firstLine < later.firstLine := by
      refine chain.imp ?_
      intro earlier later next
      omega
    rw [← List.pairwise_map]
    exact ((List.isChain_map _).mpr increasing).pairwise
  · rw [← completeScript_codeSegments]
    exact lines_completeScript fun segment mem => (mem_codeSegments.mp mem).2
  · intro none
    rw [← completeScript_codeSegments, none, completeScript_nil]

end ScriptSite.Source
