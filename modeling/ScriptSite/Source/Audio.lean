import ScriptSite.Text.Basic

/-!
# Audio directives

An audio directive is the word `$audio`, blanks, the name of a sound file, and a blank. The name is
the whole run of characters up to that blank, so a name at the very end of a text is no directive.
-/

namespace ScriptSite.Source

/-- The word that an audio directive begins with. -/
def audioWord : Text := ['$', 'a', 'u', 'd', 'i', 'o']

/-- The file named by the directive that a text begins with. -/
def directive? (text : Text) : Option Text :=
  match Text.dropPrefix? audioWord text with
  | none => none
  | some after =>
    let name := (Text.trimLeft after).takeWhile fun c => !isBlank c
    let rest := (Text.trimLeft after).dropWhile fun c => !isBlank c
    if after.head?.any isBlank ∧ name ≠ [] ∧ rest ≠ [] then some name else none

/-- The file named by the first directive in a text. -/
def audioSource? : Text → Option Text
  | [] => none
  | c :: rest => (directive? (c :: rest)).or (audioSource? rest)

end ScriptSite.Source
