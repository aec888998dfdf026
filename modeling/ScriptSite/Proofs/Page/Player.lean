import Mathlib.Data.List.Basic
import ScriptSite.Page.Fragment
import ScriptSite.Proofs.Html.Tag
import ScriptSite.Proofs.Source.Segment

/-!
# The file that a player plays

A player names its file in an attribute in double quotes, just as the source names it. So it plays
the file that the source names exactly if there is neither a double quote nor an entity in the name
(`playsFile_html_iff`); brackets, and ampersands that begin no entity, do no harm.

The name in a source is all that stands between two blanks, so quotes and entities can be in it. A
player for such a file plays another one (`not_playsFile_quotedSource`).
-/

namespace ScriptSite.Page

variable {known : List (Text × Char)} {file : Text}

/-- What the attribute begins with that names the file of a player. -/
def sourceMark : Text :=
  "src=\"".toList

/-- The names of the tags of a player. -/
def playerTags : List Text :=
  ["audio".toList, "source".toList, "/audio".toList]

/-- Whether a fragment is a player for a file, to a reader who knows a table of entities. -/
structure PlaysFile (known : List (Text × Char)) (fragment file : Text) : Prop where
  source : (Text.splitFirst? sourceMark fragment).map
    (fun (_, behind) => Html.quotedValue known behind) = some file
  tags : Html.tagNames fragment = playerTags

/-- What stands before the name of the file. -/
def playerOpening : Text :=
  "<audio controls>\n  <source src=\"".toList

/-- What stands behind the quote that ends the name. -/
def playerClosing : Text :=
  " type=\"audio/ogg\">\n</audio>".toList

theorem audioPlayer_eq (file : Text) :
    audioPlayer file = playerOpening ++ (file ++ '"' :: playerClosing) := by
  have closing : "\" type=\"audio/ogg\">\n</audio>".toList = '"' :: playerClosing := by decide
  rw [← closing]
  exact List.append_assoc ..

theorem splitFirst?_sourceMark (rest : Text) :
    Text.splitFirst? sourceMark (playerOpening ++ rest) =
      some ("<audio controls>\n  <source ".toList, rest) := by
  unfold sourceMark playerOpening
  repeat rw [String.toList_ofList]
  rfl

theorem tagNamesFrom_playerOpening (rest : Text) :
    Html.tagNamesFrom .outside (playerOpening ++ rest) =
      "audio".toList :: "source".toList :: Html.tagNamesFrom .quoted rest := by
  unfold playerOpening
  repeat rw [String.toList_ofList]
  rfl

theorem tagNames_audioPlayer (noQuote : '"' ∉ file) :
    Html.tagNames (audioPlayer file) = playerTags := by
  have closing : Html.tagNamesFrom .attributes playerClosing = ["/audio".toList] := by decide
  rw [audioPlayer_eq, Html.tagNames, tagNamesFrom_playerOpening,
    Html.tagNamesFrom_quoted_append noQuote, closing]
  rfl

/-- A player plays a file exactly if there is no double quote and no entity in its name. -/
theorem playsFile_audioPlayer_iff (longer : ∀ entity ∈ known, 1 < entity.1.length) :
    PlaysFile known (audioPlayer file) file ↔
      '"' ∉ file ∧ ∀ entity ∈ known, ¬entity.1 <:+: file := by
  have source : (Text.splitFirst? sourceMark (audioPlayer file)).map
      (fun (_, behind) => Html.quotedValue known behind) = some (Html.quotedValue known file) := by
    rw [audioPlayer_eq, splitFirst?_sourceMark]
    exact congrArg some (Html.quotedValue_append ..)
  rw [← Html.quotedValue_eq_self_iff longer]
  constructor
  · intro plays
    simpa [source] using plays.source
  · intro same
    have noQuote := ((Html.quotedValue_eq_self_iff longer).mp same).1
    exact ⟨by rw [source, same], tagNames_audioPlayer noQuote⟩

/-- The fragment of a sound segment plays the file that the source names exactly if there is no
double quote and no entity in the name. -/
theorem playsFile_html_iff (longer : ∀ entity ∈ known, 1 < entity.1.length) {text : Text}
    {segment : Segment} (mem : segment ∈ Source.segments text) (audio : segment.kind = .audio) :
    ∃ file fragment, segment.source = some file ∧ segment.html = .ok fragment ∧
      (PlaysFile known fragment file ↔ '"' ∉ file ∧ ∀ entity ∈ known, ¬entity.1 <:+: file) := by
  rcases Source.exists_shows_of_mem_segmentsFrom mem with ⟨_, _, _, shows⟩
  cases shows with
  | prose => simp [Segment.prose] at audio
  | code => simp [Segment.code] at audio
  | @audio _ file notBlock visible found =>
      exact ⟨file, audioPlayer file, rfl, rfl, playsFile_audioPlayer_iff longer⟩

/-- The name of a sound file with brackets and an ampersand in it. -/
def bracketedName : Text :=
  "<a>&b.ogg".toList

/-- A source that names a sound file with brackets and an ampersand in its name. -/
def bracketedSource : Text :=
  "/** # T */\n$audio <a>&b.ogg \n".toList

theorem segments_bracketedSource :
    Source.segments bracketedSource =
      [.prose " # T ".toList, .audio "\n$audio <a>&b.ogg \n".toList bracketedName] := by
  cbv

/-- A file with brackets and an ampersand in its name is played. -/
theorem playsFile_bracketedSource :
    (∀ entity ∈ Html.entities, 1 < entity.1.length) ∧
      ∃ segment ∈ Source.segments bracketedSource, segment.kind = .audio ∧
        segment.source = some bracketedName ∧
        ∃ fragment, segment.html = .ok fragment ∧
          PlaysFile Html.entities fragment bracketedName := by
  have longer : ∀ entity ∈ Html.entities, 1 < entity.1.length := by decide
  have mem : Segment.audio "\n$audio <a>&b.ogg \n".toList bracketedName ∈
      Source.segments bracketedSource := by
    rw [segments_bracketedSource]
    exact List.mem_cons_of_mem _ List.mem_cons_self
  have plain : '"' ∉ bracketedName ∧ ∀ entity ∈ Html.entities, ¬entity.1 <:+: bracketedName := by
    unfold Html.entities bracketedName
    repeat rw [String.toList_ofList]
    decide
  rcases playsFile_html_iff longer mem rfl with ⟨file, fragment, named, made, plays⟩
  rw [← Option.some.inj named] at plays
  exact ⟨longer, _, mem, rfl, rfl, fragment, made, plays.mpr plain⟩

/-- The name of a sound file with a quote in it. -/
def quotedName : Text :=
  "a\"b.ogg".toList

/-- A source that names a sound file with a quote in its name. -/
def quotedSource : Text :=
  "/** # T */\n$audio a\"b.ogg \n".toList

theorem segments_quotedSource :
    Source.segments quotedSource =
      [.prose " # T ".toList, .audio "\n$audio a\"b.ogg \n".toList quotedName] := by
  cbv

/-- A player for a file with a quote in its name plays another one. -/
theorem not_playsFile_quotedSource :
    ∃ segment ∈ Source.segments quotedSource, segment.kind = .audio ∧
      segment.source = some quotedName ∧
      ∃ fragment, segment.html = .ok fragment ∧
        ¬PlaysFile Html.entities fragment quotedName := by
  refine ⟨.audio "\n$audio a\"b.ogg \n".toList quotedName, ?_, rfl, rfl, _, rfl, ?_⟩
  · rw [segments_quotedSource]
    exact List.mem_cons_of_mem _ List.mem_cons_self
  · intro plays
    have quote : '"' ∈ quotedName := by decide
    exact ((playsFile_audioPlayer_iff (by decide)).mp plays).1 quote

end ScriptSite.Page
