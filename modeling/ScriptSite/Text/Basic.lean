/-!
# Texts

A text is its list of characters. This file holds the class of blank characters, the trimming of
blanks at either end, the split into lines and the few searches that every other part of the
library shares.

A blank is a character that a reader sees as space: the ASCII blanks, the four information
separators, the next-line control, and the characters of the Unicode space separator, line
separator and paragraph separator categories. The class is larger than `Char.isWhitespace`, which
it contains (`isBlank_of_isWhitespace`).
-/

namespace ScriptSite

/-- A text is a list of characters. -/
abbrev Text := List Char

instance : LawfulBEq Text :=
  inferInstanceAs (LawfulBEq (List Char))

def isBlank (c : Char) : Bool :=
  let n := c.toNat
  (0x09 ≤ n && n ≤ 0x0D) || (0x1C ≤ n && n ≤ 0x20) || n == 0x85 || n == 0xA0 || n == 0x1680 ||
    (0x2000 ≤ n && n ≤ 0x200A) || n == 0x2028 || n == 0x2029 || n == 0x202F || n == 0x205F ||
    n == 0x3000

theorem isBlank_of_isWhitespace {c : Char} (white : c.isWhitespace = true) : isBlank c = true := by
  simp only [Char.isWhitespace, Bool.or_eq_true, decide_eq_true_eq] at white
  rcases white with ((white | white) | white) | white <;> subst white <;> rfl

@[simp]
theorem isBlank_newline : isBlank '\n' = true := rfl

namespace Text

/-- The text without the blanks it begins with. -/
def trimLeft (text : Text) : Text :=
  text.dropWhile isBlank

/-- The text without the final characters of the class `p`. -/
def dropWhileRight (p : Char → Bool) (text : Text) : Text :=
  (text.reverse.dropWhile p).reverse

/-- The text without the blanks it ends with. -/
def trimRight (text : Text) : Text :=
  dropWhileRight isBlank text

/-- The text without the blanks at both ends. -/
def trim (text : Text) : Text :=
  trimRight (trimLeft text)

/-- Whether a text holds nothing but blanks. -/
def allBlank (text : Text) : Bool :=
  text.all isBlank

/-- The pieces of a text between the characters that `p` picks; there is always one more than there
are such characters. -/
def splitWhere (p : Char → Bool) : Text → List Text
  | [] => [[]]
  | c :: rest =>
    if p c then [] :: splitWhere p rest
    else
      match splitWhere p rest with
      | [] => [[c]]
      | piece :: pieces => (c :: piece) :: pieces

/-- The lines of a text, without their newlines. -/
def lines (text : Text) : List Text :=
  splitWhere (· == '\n') text

/-- The text whose lines are given. -/
def unlines (lines : List Text) : Text :=
  ['\n'].intercalate lines

def newlines (text : Text) : Nat :=
  text.count '\n'

/-- What is left of a text after `start`, if the text begins with it. -/
def dropPrefix? : (start text : Text) → Option Text
  | [], text => some text
  | _ :: _, [] => none
  | s :: start, c :: text => if s = c then dropPrefix? start text else none

def startsWith (start text : Text) : Bool :=
  (dropPrefix? start text).isSome

/-- What stands before and after the first place where `mark` occurs. -/
def splitFirst? (mark : Text) : Text → Option (Text × Text)
  | [] => if mark.isEmpty then some ([], []) else none
  | c :: rest =>
    match dropPrefix? mark (c :: rest) with
    | some after => some ([], after)
    | none => (splitFirst? mark rest).map fun (before, after) => (c :: before, after)

/-- Every line end written as a single newline: a carriage return before a newline goes, and any
other carriage return becomes one. -/
def normalizeNewlines : Text → Text
  | [] => []
  | '\r' :: '\n' :: rest => '\n' :: normalizeNewlines rest
  | c :: rest => (if c = '\r' then '\n' else c) :: normalizeNewlines rest

/-- Whether the text `left` does not come after `right`, character by character. -/
def le : (left right : Text) → Bool
  | [], _ => true
  | _ :: _, [] => false
  | l :: left, r :: right => if l = r then le left right else l.toNat ≤ r.toNat

/-- The texts in their order with `separator` between neighbours. -/
def joinWith (separator : Text) (texts : List Text) : Text :=
  separator.intercalate texts

/-- The decimal digits of a natural number. -/
def ofNat (n : Nat) : Text :=
  Nat.toDigits 10 n

/-- The decimal digits of an integer, after a minus sign if it is negative. -/
def ofInt : Int → Text
  | .ofNat n => ofNat n
  | .negSucc n => '-' :: ofNat (n + 1)

theorem dropPrefix?_eq_some_iff {start text rest : Text} :
    dropPrefix? start text = some rest ↔ text = start ++ rest := by
  induction start generalizing text with
  | nil => simp [dropPrefix?, eq_comm]
  | cons s start ih =>
    cases text with
    | nil => simp [dropPrefix?]
    | cons c text =>
      by_cases same : s = c
      · subst same
        simp [dropPrefix?, ih]
      · simp [dropPrefix?, same, Ne.symm same]

theorem splitFirst?_eq_some {mark text before after : Text}
    (found : splitFirst? mark text = some (before, after)) : text = before ++ mark ++ after := by
  induction text generalizing before with
  | nil =>
    by_cases empty : mark = []
    · simp_all [splitFirst?]
    · simp [splitFirst?, empty] at found
  | cons c rest ih =>
    rw [splitFirst?] at found
    split at found
    · rename_i tail begins
      simp only [Option.some.injEq, Prod.mk.injEq] at found
      rw [dropPrefix?_eq_some_iff.1 begins, ← found.1, ← found.2]
      simp
    · obtain ⟨⟨inner, tail⟩, innerFound, equal⟩ := Option.map_eq_some_iff.1 found
      simp only [Prod.mk.injEq] at equal
      obtain ⟨rfl, rfl⟩ := equal
      rw [ih innerFound]
      simp

end Text

end ScriptSite
