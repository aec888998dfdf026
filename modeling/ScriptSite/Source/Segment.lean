import ScriptSite.Source.Audio
import ScriptSite.Source.Block
import ScriptSite.Source.Modeline

/-!
# Segments

A source is read as a list of segments: prose, code, and sound. Each prose block gives a prose
segment, and each stretch between blocks gives a sound segment if it holds an audio directive, a
code segment if it holds anything but blanks, and nothing otherwise. Modelines are taken out of a
stretch before it is looked at.

The complete script joins the code segments, each trimmed and followed by one blank line. A code
segment knows the number of its first line in that script.
-/

namespace ScriptSite

/-- What a segment is shown as. A segment that comes from elsewhere may name a kind that no page can
show. -/
inductive SegmentKind
  | prose
  | audio
  | code
  | other (name : Text)
  deriving DecidableEq, Repr

/-- A part of a source. `source` names the sound file of a sound segment, and `firstLine` is the
line of the complete script, counted from zero, that a code segment begins on. -/
structure Segment where
  kind : SegmentKind
  text : Text
  source : Option Text := none
  firstLine : Int := 0
  deriving DecidableEq, Repr

namespace Segment

/-- A prose segment. -/
def prose (text : Text) : Segment :=
  { kind := .prose, text }

/-- A sound segment. -/
def audio (text source : Text) : Segment :=
  { kind := .audio, text, source := some source }

/-- A code segment. -/
def code (text : Text) (firstLine : Nat) : Segment :=
  { kind := .code, text, firstLine }

end Segment

namespace Source

/-- A stretch of code as it stands in the complete script, without the blank line after it. -/
def scriptBody (code : Text) : Text :=
  (Text.trimRight code).dropWhile (· == '\n')

/-- A stretch of code as it enters the complete script. -/
def scriptChunk (code : Text) : Text :=
  scriptBody code ++ ['\n', '\n']

/-- The body of a text that is one prose block and nothing else. -/
def wholeBlock? (text : Text) : Option Text :=
  match block? text with
  | some (body, []) => some body
  | _ => none

/-- The segment that a stretch gives, if any, when the complete script already has `line` lines. -/
def segmentOf? (line : Nat) (stretch : Text) : Option Segment :=
  match wholeBlock? stretch with
  | some body => some (.prose body)
  | none =>
    if Text.allBlank stretch then none
    else
      match audioSource? stretch with
      | some source => some (.audio stretch source)
      | none => some (.code stretch line)

/-- The number of lines that a segment adds to the complete script. -/
def scriptLines (segment : Segment) : Nat :=
  match segment.kind with
  | .code => Text.newlines (scriptChunk segment.text)
  | _ => 0

/-- The segments of stretches that follow `line` lines of the complete script. -/
def segmentsFrom (line : Nat) : List Text → List Segment
  | [] => []
  | stretch :: rest =>
    match segmentOf? line stretch with
    | none => segmentsFrom line rest
    | some segment => segment :: segmentsFrom (line + scriptLines segment) rest

/-- The segments of a source, in the order of the source. -/
def segments (text : Text) : List Segment :=
  segmentsFrom 0 ((pieces text).map fun piece => stripModelines piece.form)

/-- The script that the code segments make up. -/
def completeScript (segments : List Segment) : Text :=
  (segments.filter (·.kind = .code)).flatMap fun segment => scriptChunk segment.text

end Source

end ScriptSite
