import ScriptSite.Page.Fragment
import ScriptSite.Proofs.Html.Escape

/-!
# Reading a block of code back

Code can be escaped character by character, or by replacing the three characters that mean something
to HTML one after the other, the ampersand first (`replacedInTurn_eq`). Both give the same, since
the later replacements find nothing in the entities that the earlier ones have written.

A block of code has the number of its first line between its first quotes that end a tag, and the
code up to the next bracket. `readBlock?` takes both out again, so different code or different
numbers never make the same block (`codeBlock_lossless`).
-/

namespace ScriptSite

namespace Text

variable {c : Char}

/-- A text with each occurrence of a mark replaced, from left to right; `skip` characters belong to
an occurrence that has been replaced already. -/
def replaceFrom (mark replacement : Text) : (skip : Nat) → Text → Text
  | _, [] => []
  | skip + 1, _ :: rest => replaceFrom mark replacement skip rest
  | 0, c :: rest =>
      if startsWith mark (c :: rest) then
        replacement ++ replaceFrom mark replacement (mark.length - 1) rest
      else c :: replaceFrom mark replacement 0 rest

/-- A text with each occurrence of a mark replaced, where no two of them overlap. -/
def replaceAll (mark replacement text : Text) : Text :=
  replaceFrom mark replacement 0 text

/-- A mark of one character is replaced wherever the character stands. -/
theorem replaceAll_singleton (c : Char) (replacement text : Text) :
    replaceAll [c] replacement text =
      text.flatMap fun d => if d = c then replacement else [d] := by
  rw [replaceAll]
  induction text with
  | nil => rfl
  | cons d text ih =>
      rw [replaceFrom, List.flatMap_cons]
      by_cases same : d = c
      · subst same
        simp [startsWith, dropPrefix?, ih]
      · simp [startsWith, dropPrefix?, same, Ne.symm same, ih]

/-- The integer that decimal digits spell, behind a minus sign or not. -/
def toInt : Text → Int
  | '-' :: digits => -(Nat.ofDigitChars 10 digits 0 : Int)
  | digits => Nat.ofDigitChars 10 digits 0

theorem isDigit_of_mem_ofNat {n : Nat} (mem : c ∈ ofNat n) : c.isDigit = true :=
  Nat.isDigit_of_mem_toDigits (by decide) (by decide) mem

theorem toInt_ofInt (n : Int) : toInt (ofInt n) = n := by
  cases n with
  | ofNat n =>
      have digits : toInt (ofNat n) = (Nat.ofDigitChars 10 (ofNat n) 0 : Int) := by
        rcases spelled : ofNat n with _ | ⟨first, rest⟩
        · rfl
        · have isDigit := isDigit_of_mem_ofNat (n := n) (by rw [spelled]; exact List.mem_cons_self)
          have notSign : first ≠ '-' := by
            rintro rfl
            exact absurd isDigit (by decide)
          simp [toInt, notSign]
      rw [ofInt, digits, ofNat, Nat.ofDigitChars_ten_toDigits]
      rfl
  | negSucc n =>
      rw [ofInt, toInt, ofNat, Nat.ofDigitChars_ten_toDigits]
      rfl

theorem bracket_notMem_ofInt (n : Int) : '>' ∉ ofInt n := by
  have notDigit : ∀ n, '>' ∉ ofNat n := by
    intro n mem
    exact absurd (isDigit_of_mem_ofNat mem) (by decide)
  cases n with
  | ofNat n => exact notDigit n
  | negSucc n => simpa [ofInt] using notDigit (n + 1)

end Text

namespace Html

/-- Code with its ampersands replaced, then its opening brackets, and then its closing ones. -/
def replacedInTurn (code : Text) : Text :=
  Text.replaceAll ['>'] "&gt;".toList
    (Text.replaceAll ['<'] "&lt;".toList (Text.replaceAll ['&'] "&amp;".toList code))

/-- The later replacements find nothing in what the earlier ones have written. -/
theorem replacedInTurn_eq (code : Text) : replacedInTurn code = escapeCode code := by
  simp only [replacedInTurn, Text.replaceAll_singleton, List.flatMap_assoc, escapeCode]
  congr 1
  funext c
  by_cases ampersand : c = '&'
  · subst ampersand
    rfl
  by_cases less : c = '<'
  · subst less
    rfl
  by_cases greater : c = '>'
  · subst greater
    rfl
  simp [codeEntity, ampersand, less, greater]

end Html

namespace Page

/-- What stands before the number of the first line of a block. -/
def numberMark : Text :=
  "<div class=\"bubbles\">\n<pre class=\"brush: js; first-line: ".toList

/-- What stands between that number and the code. -/
def numberEnd : Text :=
  "\">\n".toList

/-- The code in a block and the number of its first line, counted from zero. -/
def readBlock? (block : Text) : Option (Text × Int) :=
  (Text.dropPrefix? numberMark block).bind fun numbered =>
    (Text.splitFirst? numberEnd numbered).bind fun (number, listing) =>
      (Text.splitFirst? codeClosing listing).map fun (code, _) =>
        (Html.decodeCodeEntities code, Text.toInt number - 1)

theorem codeBlock_eq (code : Text) (n : Int) :
    codeBlock code n =
      numberMark ++
        (Text.ofInt (n + 1) ++ (numberEnd ++ (Html.escapeCode code ++ codeClosing))) := by
  have opening : codeOpening n = numberMark ++ Text.ofInt (n + 1) ++ numberEnd := rfl
  simp only [codeBlock, opening, List.append_assoc]

theorem splitFirst?_numberEnd (n : Int) (listing : Text) :
    Text.splitFirst? numberEnd (Text.ofInt n ++ (numberEnd ++ listing)) =
      some (Text.ofInt n, listing) := by
  have mark : numberEnd = ['"', '>', '\n'] := by decide
  rw [mark]
  exact Text.splitFirst?_append_of_notMem (by decide) (Text.bracket_notMem_ofInt n) _ listing

theorem splitFirst?_codeClosing (code rest : Text) :
    Text.splitFirst? codeClosing (Html.escapeCode code ++ (codeClosing ++ rest)) =
      some (Html.escapeCode code, rest) := by
  have mark : codeClosing = '\n' :: '<' :: codeClosing.tail.tail := by decide
  rw [mark]
  exact Text.splitFirst?_append_of_notMem (by decide) (Html.lt_notMem_escapeCode code) _ rest

theorem readBlock?_codeBlock (code : Text) (n : Int) :
    readBlock? (codeBlock code n) = some (code, n) := by
  have begins : Text.dropPrefix? numberMark (codeBlock code n) =
      some (Text.ofInt (n + 1) ++ (numberEnd ++ (Html.escapeCode code ++ codeClosing))) :=
    Text.dropPrefix?_eq_some_iff.mpr (codeBlock_eq code n)
  have ends := splitFirst?_codeClosing code []
  rw [List.append_nil] at ends
  simp only [readBlock?, begins, Option.bind_some, splitFirst?_numberEnd, ends, Option.map_some,
    Html.decodeCodeEntities_escapeCode, Text.toInt_ofInt, Int.add_sub_cancel]

/-- A block of code holds the code without loss, and the number of its first line: the code has no
bracket or ampersand of its own in it, and both can be read back. -/
theorem codeBlock_lossless (code : Text) (n : Int) :
    Html.escapeCode code = Html.replacedInTurn code ∧
      '<' ∉ Html.escapeCode code ∧ '>' ∉ Html.escapeCode code ∧
      (∀ before after, Html.escapeCode code = before ++ '&' :: after →
        ∃ known ∈ Html.entities.take 3, known.1 <+: '&' :: after) ∧
      Html.decodeCodeEntities (Html.escapeCode code) = code ∧
      readBlock? (codeBlock code n) = some (code, n) ∧
      ∀ other m, codeBlock code n = codeBlock other m ↔ code = other ∧ n = m := by
  refine ⟨(Html.replacedInTurn_eq code).symm, Html.lt_notMem_escapeCode code,
    Html.gt_notMem_escapeCode code, fun _ _ => Html.exists_entity_of_ampersand,
    Html.decodeCodeEntities_escapeCode code, readBlock?_codeBlock code n, fun other m => ?_⟩
  constructor
  · intro same
    have read := readBlock?_codeBlock other m
    rw [← same, readBlock?_codeBlock, Option.some.injEq, Prod.mk.injEq] at read
    exact read
  · rintro ⟨rfl, rfl⟩
    rfl

end Page

end ScriptSite
