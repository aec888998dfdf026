import ScriptSite.Number.Double
import ScriptSite.Text.Word

/-!
# Reading numbers

An integer is written with digits of a base, a number of double precision with decimal digits, a
point and an exponent. Blanks around a number and a sign before it are allowed, and the decimal
digits of every script count.
-/

namespace ScriptSite

namespace Number

/-- The character as a digit of ASCII if it is a decimal digit of some script. -/
def plainDigit (c : Char) : Char :=
  match digitRanges.find? fun (first, last) => first ≤ c.toNat && c.toNat ≤ last with
  | some (first, _) => Char.ofNat ('0'.toNat + (c.toNat - first) % 10)
  | none => c

/-- Whether a character may stand around a number: all blanks but the information separators. -/
def isPadding (c : Char) : Bool :=
  isBlank c && !(0x1C ≤ c.toNat && c.toNat ≤ 0x1F)

/-- A text without the padding at both ends, with plain digits. -/
def trimmed (text : Text) : Text :=
  (Text.dropWhileRight isPadding (text.dropWhile isPadding)).map plainDigit

/-- The sign of a number, whether it is negative, and what is behind it. -/
def splitSign : Text → Bool × Text
  | '-' :: rest => (true, rest)
  | '+' :: rest => (false, rest)
  | text => (false, text)

/-- The value of a digit or a letter, which goes on where the digits end. -/
def digitValue? (c : Char) : Option Nat :=
  if c.isDigit then some (c.toNat - '0'.toNat)
  else if c.isLower then some (c.toNat - 'a'.toNat + 10)
  else if c.isUpper then some (c.toNat - 'A'.toNat + 10)
  else none

/-- The value of a digit of a base. -/
def digitIn? (base : Nat) (c : Char) : Option Nat :=
  (digitValue? c).filter (· < base)

/-- The number that digits of a base make up; there is at least one. -/
def natural? (base : Nat) (digits : Text) : Option Nat :=
  if digits.isEmpty then none
  else
    digits.foldl (fun sum? c => do
      let sum ← sum?
      let digit ← digitIn? base c
      return sum * base + digit) (some 0)

/-- The letter that marks a base behind a zero. -/
def baseLetter? : (base : Nat) → Option Char
  | 2 => some 'b'
  | 8 => some 'o'
  | 16 => some 'x'
  | _ => none

/-- Digits without the mark of their base. -/
def withoutMark (base : Nat) (digits : Text) : Text :=
  match digits with
  | '0' :: letter :: rest => if baseLetter? base = some letter.toLower then rest else digits
  | _ => digits

/-- The most digits that an integer is read or written with in the base ten. -/
def mostDigits : Nat :=
  4300

/-- The integer that a text spells with digits of a base. -/
def integer? (base : Nat) (text : Text) : Option Int := do
  let (negative, digits) := splitSign (trimmed text)
  if base = 10 ∧ mostDigits < digits.length then none
  else
    let size ← natural? base (withoutMark base digits)
    return if negative then -(size : Int) else size

/-- The exponent that follows the digits of a number. -/
def exponent? : Text → Option Int
  | [] => some 0
  | mark :: rest => do
    if mark.toLower ≠ 'e' then none
    else
      let (negative, digits) := splitSign rest
      let size ← natural? 10 digits
      return if negative then -(size : Int) else size

/-- The number of double precision that a text without sign spells. -/
def unsignedDouble? (negative : Bool) (text : Text) : Option Double :=
  let name := text.map Char.toLower
  if name = "inf".toList ∨ name = "infinity".toList then some (.infinite negative)
  else if name = "nan".toList then some .nan
  else do
    let whole := text.takeWhile Char.isDigit
    let behind := text.dropWhile Char.isDigit
    let fraction := if behind.head? = some '.' then (behind.drop 1).takeWhile Char.isDigit else []
    let rest := if behind.head? = some '.' then (behind.drop 1).dropWhile Char.isDigit else behind
    let digits ← natural? 10 (whole ++ fraction)
    let exponent ← exponent? rest
    return Double.ofDecimal negative digits (exponent - fraction.length)

/-- The number of double precision that a text spells. -/
def double? (text : Text) : Option Double :=
  let (negative, digits) := splitSign (trimmed text)
  unsignedDouble? negative digits

end Number

end ScriptSite
