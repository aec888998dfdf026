import ScriptSite.Text.Basic

/-!
# Prose blocks

A prose block opens with a slash and two stars, holds a body of at least one character and no star,
and closes with a star and a slash. `block?` recognises a block at the head of a text; `pieces` cuts
a text into the blocks it holds, leftmost first, and the stretches between them. Cutting loses
nothing: `flatten_pieces` puts the text together again.
-/

namespace ScriptSite.Source

/-- What a prose block opens with. -/
def blockOpen : Text := ['/', '*', '*']

/-- What a prose block closes with. -/
def blockClose : Text := ['*', '/']

/-- The source form of a prose block with the given body. -/
def blockForm (body : Text) : Text :=
  blockOpen ++ body ++ blockClose

/-- The prose block that a text begins with: its body and the text after it. -/
def block? (text : Text) : Option (Text × Text) :=
  match Text.dropPrefix? blockOpen text with
  | none => none
  | some inner =>
    match inner.takeWhile (· ≠ '*'), Text.dropPrefix? blockClose (inner.dropWhile (· ≠ '*')) with
    | [], _ => none
    | _ :: _, none => none
    | c :: body, some rest => some (c :: body, rest)

/-- A stretch of a source: text between prose blocks, or a prose block with its body. -/
inductive Piece
  | plain (text : Text)
  | block (body : Text)
  deriving DecidableEq, Repr

/-- The source form of a stretch. -/
def Piece.form : Piece → Text
  | .plain text => text
  | .block body => blockForm body

theorem block?_eq_some {text body rest : Text} (found : block? text = some (body, rest)) :
    text = blockForm body ++ rest ∧ body ≠ [] ∧ '*' ∉ body := by
  unfold block? at found
  split at found
  · simp at found
  rename_i inner opens
  split at found
  · simp at found
  · simp at found
  rename_i c tail rest' bodyEq closes
  simp only [Option.some.injEq, Prod.mk.injEq] at found
  obtain ⟨rfl, rfl⟩ := found
  have whole := List.takeWhile_append_dropWhile (p := fun c : Char => decide (c ≠ '*')) (l := inner)
  rw [bodyEq, Text.dropPrefix?_eq_some_iff.1 closes] at whole
  refine ⟨?_, by simp, ?_⟩
  · rw [Text.dropPrefix?_eq_some_iff.1 opens, ← whole]
    simp [blockForm]
  · intro star
    rw [← bodyEq] at star
    have notStar := List.all_takeWhile (p := fun c : Char => decide (c ≠ '*')) (l := inner)
    simpa using List.all_eq_true.1 notStar _ star

theorem length_lt_of_block? {text body rest : Text} (found : block? text = some (body, rest)) :
    rest.length < text.length := by
  rw [(block?_eq_some found).1]
  simp [blockForm, blockOpen]
  omega

/-- The stretches of a text, where `before` holds the characters since the last block in reverse
order. Between any two blocks, and at either end, there is one plain stretch, possibly empty. -/
def piecesAfter (before : Text) (text : Text) : List Piece :=
  match _found : block? text with
  | some (body, rest) => .plain before.reverse :: .block body :: piecesAfter [] rest
  | none =>
    match text with
    | [] => [.plain before.reverse]
    | c :: rest => piecesAfter (c :: before) rest
termination_by text.length
decreasing_by
  · exact length_lt_of_block? ‹_›
  · simp

/-- The stretches of a text in their order. -/
def pieces (text : Text) : List Piece :=
  piecesAfter [] text

theorem flatten_piecesAfter (before text : Text) :
    ((piecesAfter before text).map Piece.form).flatten = before.reverse ++ text := by
  fun_induction piecesAfter before text with
  | case1 before text body rest found ih =>
    simp [Piece.form, ih, (block?_eq_some found).1]
  | case2 before found => simp [Piece.form]
  | case3 before c rest found ih => simp [ih]

/-- Cutting a text into stretches loses nothing. -/
@[simp]
theorem flatten_pieces (text : Text) : ((pieces text).map Piece.form).flatten = text := by
  simp [pieces, flatten_piecesAfter]

end ScriptSite.Source
