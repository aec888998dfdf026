import ScriptSite.Text.Basic

/-!
# Editor modelines

A modeline is a comment for an editor: a newline, blanks, two slashes, blanks, the word `vim:` and
whatever follows on that line. The blanks may hold newlines of their own. `stripModelines` takes
every modeline out of a text, with the newline before it and without the newline after it.
-/

namespace ScriptSite.Source

/-- What is left of a text after a modeline, if the text, which follows a newline, begins with
one. -/
def afterModeline? (text : Text) : Option Text :=
  (Text.dropPrefix? ['/', '/'] (Text.trimLeft text)).bind fun comment =>
    (Text.dropPrefix? ['v', 'i', 'm', ':'] (Text.trimLeft comment)).map fun options =>
      options.dropWhile (· ≠ '\n')

theorem length_dropWhile_le (p : Char → Bool) (text : Text) :
    (text.dropWhile p).length ≤ text.length :=
  (List.dropWhile_sublist p).length_le

theorem length_of_dropPrefix? {start text rest : Text}
    (drops : Text.dropPrefix? start text = some rest) :
    text.length = start.length + rest.length := by
  rw [Text.dropPrefix?_eq_some_iff.1 drops, List.length_append]

theorem length_le_of_afterModeline? {text rest : Text} (found : afterModeline? text = some rest) :
    rest.length ≤ text.length := by
  obtain ⟨comment, slashes, found⟩ := Option.bind_eq_some_iff.1 found
  obtain ⟨options, word, rfl⟩ := Option.map_eq_some_iff.1 found
  have first := length_of_dropPrefix? slashes
  have second := length_of_dropPrefix? word
  have left := length_dropWhile_le isBlank text
  have right := length_dropWhile_le isBlank comment
  have final := length_dropWhile_le (fun c => decide (c ≠ '\n')) options
  unfold Text.trimLeft at first second
  omega

/-- The text without its modelines. -/
def stripModelines : Text → Text
  | [] => []
  | c :: rest =>
    if c = '\n' then
      match _found : afterModeline? rest with
      | some after => stripModelines after
      | none => c :: stripModelines rest
    else c :: stripModelines rest
termination_by text => text.length
decreasing_by
  · have := length_le_of_afterModeline? ‹_›
    simp
    omega
  · simp
  · simp

end ScriptSite.Source
