import ScriptSite.Text.Basic

/-!
# Titles

The title of a source is what follows its first number sign: the rest of the line that holds the
first character after it that is no blank. If nothing but blanks follow, the last of them that is no
newline stands in, and if there is none either, the source has no title.
-/

namespace ScriptSite.Source

/-- The title in the text that follows a number sign. -/
def titleAfter? (text : Text) : Option Text :=
  match Text.trimLeft text with
  | c :: rest => some ((c :: rest).takeWhile (· ≠ '\n'))
  | [] => (text.filter (· ≠ '\n')).getLast?.map fun c => [c]

/-- The title of a source. -/
def title? (text : Text) : Option Text :=
  match text.dropWhile (· ≠ '#') with
  | [] => none
  | _ :: rest => titleAfter? rest

end ScriptSite.Source
