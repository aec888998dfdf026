import Mathlib.Data.List.Basic
import ScriptSite.Page.Fragment
import ScriptSite.Proofs.Source.Directive
import ScriptSite.Proofs.Source.Segment

/-!
# Well-formed segments

A segment has a field for the name of a sound file whatever its kind is, and a kind that no page can
show is a kind all the same. `Segment.IsWellFormed` says which segments make sense: prose holds no
star, sound names the file of the leftmost directive in it, and code holds something to see and no
directive.

A source gives no other segments, and each of them has a fragment. In particular the word that
stands in a player for a file without a name is never written (`wellFormed_of_mem_segments`).
-/

namespace ScriptSite

/-- Whether a segment has what its kind asks for, and nothing that belongs to another kind. -/
def Segment.IsWellFormed (segment : Segment) : Prop :=
  match segment.kind with
  | .prose =>
      segment.text ≠ [] ∧ '*' ∉ segment.text ∧ segment.source = none ∧ segment.firstLine = 0
  | .audio =>
      (∃ name, segment.source = some name ∧ Source.NamesFirst name segment.text) ∧
        segment.firstLine = 0
  | .code =>
      (∃ c ∈ segment.text, isBlank c = false) ∧ segment.source = none ∧
        ¬Source.HoldsDirective segment.text
  | .other _ => False

/-- A well-formed segment has a fragment, and a player in it plays the file that the segment
names. -/
theorem Segment.IsWellFormed.exists_html {segment : Segment} (wellFormed : segment.IsWellFormed) :
    ∃ fragment, segment.html = .ok fragment ∧
      (segment.kind = .audio →
        ∃ name, segment.source = some name ∧ fragment = Page.audioPlayer name) := by
  rcases segment with ⟨kind, text, source, firstLine⟩
  cases kind with
  | prose => exact ⟨_, rfl, by simp⟩
  | code => exact ⟨_, rfl, by simp⟩
  | other name => exact wellFormed.elim
  | audio =>
      rcases wellFormed with ⟨⟨name, named, _⟩, _⟩
      refine ⟨_, rfl, ?_⟩
      intro _
      refine ⟨name, named, ?_⟩
      rw [named, Option.getD_some]

namespace Source

variable {line : Nat} {text stretch : Text} {segment : Segment}

theorem wellFormed_of_shows (shown : Shows line stretch segment) : segment.IsWellFormed := by
  cases shown with
  | prose isBody => exact ⟨isBody.ne_nil, isBody.star_notMem, rfl, rfl⟩
  | @audio _ name notBlock visible found =>
      exact ⟨⟨name, rfl, audioSource?_eq_some_iff.mp found⟩, rfl⟩
  | code notBlock visible silent =>
      exact ⟨Text.allBlank_eq_false_iff.mp visible, rfl, audioSource?_eq_none_iff.mp silent⟩

/-- The segments of a source are well formed. So each of them has a fragment, and a player in it
plays the file that the segment names. -/
theorem wellFormed_of_mem_segments (mem : segment ∈ segments text) :
    segment.IsWellFormed ∧
      ∃ fragment, segment.html = .ok fragment ∧
        (segment.kind = .audio →
          ∃ name, segment.source = some name ∧ fragment = Page.audioPlayer name) := by
  rcases exists_shows_of_mem_segmentsFrom mem with ⟨line, stretch, _, shown⟩
  have wellFormed := wellFormed_of_shows shown
  exact ⟨wellFormed, wellFormed.exists_html⟩

/-- A source with the word of a directive three times in a row: the first lacks its blank, the
second takes the third for the name of its file. -/
def repeatedWord : Text :=
  "/** # T */\n$audio$audio $audio x.ogg \n/**p*/\nfoo(\"$audio x\");".toList

theorem segments_repeatedWord :
    segments repeatedWord =
      [.prose " # T ".toList, .audio "\n$audio$audio $audio x.ogg \n".toList audioWord,
        .prose "p".toList, .code "\nfoo(\"$audio x\");".toList 0] := by
  cbv

/-- The leftmost directive names the word itself, and the player plays a file of that name. -/
theorem wellFormed_repeatedWord :
    ∃ segment ∈ segments repeatedWord, segment.kind = .audio ∧ segment.source = some audioWord ∧
      segment.IsWellFormed ∧ segment.html = .ok (Page.audioPlayer audioWord) := by
  have mem : Segment.audio "\n$audio$audio $audio x.ogg \n".toList audioWord ∈
      segments repeatedWord := by
    rw [segments_repeatedWord]
    exact List.mem_cons_of_mem _ List.mem_cons_self
  rcases wellFormed_of_mem_segments mem with ⟨wellFormed, fragment, made, plays⟩
  rcases plays rfl with ⟨name, named, rfl⟩
  rw [← Option.some.inj named] at made
  exact ⟨_, mem, rfl, rfl, wellFormed, made⟩

end Source

end ScriptSite
