import ScriptSite.Page.Example
import ScriptSite.Proofs.Page.CodeBlock
import ScriptSite.Proofs.Source.Segment
import ScriptSite.Proofs.Text.Search

/-!
# The complete script on its page

A source with a title has a page (`exists_example?`). The last part of the page is the complete
script under its heading, whatever the fragments above it hold, and it can be read back from there:
`scriptOf?` looks for the last heading, reads the block of code below it up to where the block is
closed, and decodes the entities in it. No bracket is left in the escaped script, so the script can
neither close its block nor repeat the heading, and the foot of a page does not hold the heading
(`scriptOf?_of_title?`).
-/

namespace ScriptSite

/-- The segments of a source are of kinds that have a place in a page. -/
theorem Source.exists_html {text : Text} {segment : Segment} (mem : segment ∈ segments text) :
    ∃ html, segment.html = .ok html := by
  rcases exists_shows_of_mem_segmentsFrom mem with ⟨_, _, _, shows⟩
  cases shows <;> exact ⟨_, rfl⟩

theorem Source.exists_mapM_html {segments : List Segment}
    (each : ∀ segment ∈ segments, ∃ html, segment.html = .ok html) :
    ∃ fragments, segments.mapM Segment.html = .ok fragments := by
  induction segments with
  | nil => exact ⟨[], rfl⟩
  | cons segment segments ih =>
      rcases each segment List.mem_cons_self with ⟨html, isHtml⟩
      rcases ih fun later mem => each later (List.mem_cons_of_mem _ mem) with ⟨rest, isRest⟩
      exact ⟨html :: rest, by simp [List.mapM_cons, isHtml, isRest, bind, Except.bind, pure,
        Except.pure]⟩

namespace Page

variable {source siteName title : Text}

/-- A source with a title has a page. -/
theorem exists_example? (titled : Source.title? source = some title) (siteName : Text) :
    ∃ fragments, example? source siteName = .ok (finish (exampleLines title siteName
      (Source.completeScript (Source.segments source)) fragments)) := by
  rcases Source.exists_mapM_html fun segment (mem : segment ∈ Source.segments source) =>
    Source.exists_html mem with ⟨fragments, isFragments⟩
  refine ⟨fragments, ?_⟩
  simp [example?, titled, isFragments, bind, Except.bind, pure, Except.pure]

/-- What a reader looks for: the heading of the complete script. -/
def headingMark : Text :=
  "<h2 id=\"complete-script\">Complete Script</h2>".toList

/-- What stands between the heading and the first line of the script. -/
def openingMark : Text :=
  "\n<div class=\"bubbles\">\n<pre class=\"brush: js; first-line: 1\">\n".toList

/-- What stands behind the last line of the script. -/
def closingMark : Text :=
  "\n</pre></div>".toList

/-- The complete script that a page shows below its last heading for one. -/
def scriptOf? (page : Text) : Option Text :=
  (Text.splitLast? headingMark page).bind fun (_, below) =>
    (Text.dropPrefix? openingMark below).bind fun block =>
      (Text.splitFirst? closingMark block).map fun (listing, _) => Html.decodeCodeEntities listing

/-- No second heading begins in the heading behind its first bracket, or in the script below it. -/
theorem isClear_below_heading (script : Text) :
    Text.isClear scriptHeading (scriptHeading.tail ++ '\n' :: codeBlock script 0) = true := by
  have heading : Text.isClear scriptHeading (scriptHeading.tail ++ ['\n']) = true := by decide
  have opening : Text.isClear scriptHeading (codeOpening 0) = true := by decide
  have closing : Text.isClear scriptHeading codeClosing = true := by decide
  have listing : Text.isClear scriptHeading (Html.escapeCode script) = true :=
    Text.isClear_of_notMem (Html.lt_notMem_escapeCode script)
  have block := Text.isClear_append (Text.isClear_append opening listing) closing
  have whole := Text.isClear_append heading block
  rwa [List.append_assoc, List.singleton_append] at whole

theorem isClear_foot :
    Text.isClear scriptHeading ('\n' :: (footer 1).flatMap (· ++ ['\n'])) = true := by
  have lines : ((footer 1).map (· ++ ['\n'])).all (Text.isClear scriptHeading) = true := by
    -- The kernel reads a list of characters much faster than the text of a literal.
    unfold footer license licenseAddress closing scriptHeading
    repeat rw [String.toList_ofList]
    decide +kernel
  have newline : Text.isClear scriptHeading ['\n'] = true := by decide
  rw [List.flatMap_def, ← List.singleton_append]
  exact Text.isClear_append newline (Text.isClear_flatten lines)

theorem headingMark_eq : headingMark = '<' :: scriptHeading.tail := by decide

theorem openingMark_eq : openingMark = '\n' :: codeOpening 0 := by decide

/-- A script is read back from below its heading if no other heading follows. -/
theorem scriptOf?_append {rest : Text} (clear : Text.isClear scriptHeading rest = true)
    (before script : Text) :
    scriptOf? (before ++ (scriptHeading ++ ('\n' :: codeBlock script 0 ++ rest))) =
      some script := by
  have last := Text.not_infix_of_isClear
    (Text.isClear_append (isClear_below_heading script) clear) (by decide)
  have cut : Text.splitLast? headingMark
      (before ++ (scriptHeading ++ ('\n' :: codeBlock script 0 ++ rest))) =
        some (before, '\n' :: codeBlock script 0 ++ rest) := by
    rw [List.append_assoc] at last
    rw [headingMark_eq]
    exact Text.splitLast?_append last before
  have begins : Text.dropPrefix? openingMark ('\n' :: codeBlock script 0 ++ rest) =
      some (Html.escapeCode script ++ (closingMark ++ rest)) := by
    rw [Text.dropPrefix?_eq_some_iff, codeBlock, openingMark_eq]
    simp only [List.append_assoc, List.cons_append]
    rfl
  have ends : Text.splitFirst? closingMark (Html.escapeCode script ++ (closingMark ++ rest)) =
      some (Html.escapeCode script, rest) :=
    splitFirst?_codeClosing script rest
  simp only [scriptOf?, cut, Option.bind_some, begins, ends, Option.map_some,
    Html.decodeCodeEntities_escapeCode]

/-- Below the last heading on the page of a source stands its complete script, and it is read back
as it is. -/
theorem scriptOf?_of_title? (titled : (Source.title? source).isSome = true) (siteName : Text) :
    ∃ page, example? source siteName = .ok page ∧
      scriptOf? page = some (Source.completeScript (Source.segments source)) := by
  rcases Option.isSome_iff_exists.mp titled with ⟨title, isTitle⟩
  rcases exists_example? isTitle siteName with ⟨fragments, made⟩
  refine ⟨_, made, ?_⟩
  generalize Source.completeScript (Source.segments source) = script
  have lines : exampleLines title siteName script fragments =
      (header title 1 siteName true ++ fragments ++ ["<br/>".toList, "<hr/>".toList]) ++
        scriptHeading :: codeBlock script 0 :: footer 1 := by
    simp only [exampleLines, List.append_assoc, List.cons_append, List.nil_append]
  have page := scriptOf?_append isClear_foot
    ((header title 1 siteName true ++ fragments ++ ["<br/>".toList, "<hr/>".toList]).flatMap
      (· ++ ['\n'])) script
  rw [lines, finish_eq_flatMap (by simp), List.flatMap_append, List.flatMap_cons, List.flatMap_cons]
  simpa only [List.append_assoc, List.cons_append, List.nil_append] using page

/-- A source with prose that repeats the heading of the complete script and closes blocks. -/
def forgingSource : Text :=
  ("/** # T\n<h2 id=\"complete-script\">Complete Script</h2>\n</pre></div> */" ++
    "if (a < b && c) d();").toList

/-- Prose that repeats the heading and closes blocks does not hide the script. -/
theorem scriptOf?_of_forged_heading :
    (Source.title? forgingSource).isSome = true ∧
      ∃ page, example? forgingSource defaultSiteName = .ok page ∧
        scriptOf? page = some "if (a < b && c) d();\n\n".toList := by
  have titled : (Source.title? forgingSource).isSome = true := by decide
  have script : Source.completeScript (Source.segments forgingSource) =
      "if (a < b && c) d();\n\n".toList := by cbv
  rw [← script]
  exact ⟨titled, scriptOf?_of_title? titled defaultSiteName⟩

end Page

end ScriptSite
