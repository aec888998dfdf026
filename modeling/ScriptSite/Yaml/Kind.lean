import ScriptSite.Text.Basic

/-!
# Kinds of values

Every node has a tag, the name of the kind of its value. A plain text without a tag gets one from
its form: there are forms for truth values, numbers, times, the absent value and two marks that
mappings use. Any other text is a text.
-/

namespace ScriptSite.Yaml

namespace Kind

/-- What the names of the common kinds begin with. -/
def common : Text :=
  "tag:yaml.org,2002:".toList

/-- The tag of a common kind. -/
def named (name : String) : Text :=
  common ++ name.toList

def text : Text :=
  named "str"

def sequence : Text :=
  named "seq"

def mapping : Text :=
  named "map"

def set : Text :=
  named "set"

/-- The tag of mappings that are written as sequences. -/
def orderedMap : Text :=
  named "omap"

/-- The tag of sequences of pairs. -/
def pairs : Text :=
  named "pairs"

/-- The tag of the absent value. -/
def null : Text :=
  named "null"

/-- The tag of truth values. -/
def truth : Text :=
  named "bool"

def integer : Text :=
  named "int"

/-- The tag of numbers of double precision. -/
def double : Text :=
  named "float"

/-- The tag of byte strings. -/
def binary : Text :=
  named "binary"

/-- The tag of days and times. -/
def time : Text :=
  named "timestamp"

/-- The tag of the key whose value is merged into the mapping. -/
def merge : Text :=
  named "merge"

/-- The tag of the key whose value stands for the mapping. -/
def value : Text :=
  named "value"

/-- The tag of the signs that begin other tokens. -/
def sign : Text :=
  named "yaml"

/-- The tag that asks for the kind of a text to be found by its form. -/
def unspecific : Text :=
  ['!']

/-! ## Forms -/

/-- A word in small letters, with a capital first letter, or in capitals. -/
def isWord (word : String) (text : Text) : Bool :=
  let small := word.toList
  text == small || text == small.map Char.toUpper ||
    text == (small.take 1).map Char.toUpper ++ small.drop 1

/-- The words for truth values. -/
def isTruth (text : Text) : Bool :=
  ["yes", "no", "true", "false", "on", "off"].any (isWord · text)

def withoutSign : Text → Text
  | '-' :: rest => rest
  | '+' :: rest => rest
  | text => text

/-- Whether a character is a digit or an underscore. -/
def isDigitOrLow (c : Char) : Bool :=
  c.isDigit || c == '_'

/-- Whether a text is a digit followed by digits and underscores. -/
def isDigits (text : Text) : Bool :=
  text.head?.any Char.isDigit && text.all isDigitOrLow

/-- Whether a text is an exponent with a sign, or nothing. -/
def isExponent : Text → Bool
  | [] => true
  | mark :: sign :: digits =>
    (mark == 'e' || mark == 'E') && (sign == '-' || sign == '+') && !digits.isEmpty &&
      digits.all Char.isDigit
  | _ => false

/-- Whether a text is the fraction of a number and an exponent. -/
def isFraction (text : Text) : Bool :=
  isExponent (text.dropWhile isDigitOrLow)

/-- Whether a text is a number of minutes or seconds. -/
def isSixtieth : Text → Bool
  | [d] => d.isDigit
  | [d, e] => '0' ≤ d && d ≤ '5' && e.isDigit
  | _ => false

/-- Whether a text without sign is a number with a base of sixty, and begins with a digit of the
class `p`. -/
def isSixty (p : Char → Bool) (text : Text) : Bool :=
  match Text.splitWhere (· == ':') text with
  | first :: second :: rest =>
    first.head?.any p && isDigits first && (second :: rest).all isSixtieth
  | _ => false

/-- Whether a text is a number of double precision. -/
def isDouble (text : Text) : Bool :=
  let unsigned := withoutSign text
  let whole := unsigned.takeWhile (· != '.')
  match unsigned.dropWhile (· != '.') with
  | [] => false
  | _ :: fraction =>
    (isDigits whole && isFraction fraction) ||
      (isSixty Char.isDigit whole && fraction.all isDigitOrLow) ||
      (whole.isEmpty && isWord "inf" fraction) ||
      (unsigned == text && whole.isEmpty && fraction.head?.any Char.isDigit &&
      isFraction fraction) ||
      [".nan", ".NaN", ".NAN"].any (·.toList == text)

/-- Whether a text is digits of the class `p` and underscores behind the mark of a base. -/
def isMarked (mark : Text) (p : Char → Bool) (text : Text) : Bool :=
  match Text.dropPrefix? mark text with
  | some digits => !digits.isEmpty && digits.all fun c => p c || c == '_'
  | none => false

/-- Whether a character is a digit and not zero. -/
def isNonzero (c : Char) : Bool :=
  c.isDigit && c != '0'

def isInteger (text : Text) : Bool :=
  let unsigned := withoutSign text
  isMarked ['0', 'b'] (fun c => c == '0' || c == '1') unsigned ||
    isMarked ['0'] (fun c => '0' ≤ c && c ≤ '7') unsigned || unsigned == ['0'] ||
    (unsigned.head?.any isNonzero && isDigits unsigned) ||
    isMarked ['0', 'x'] (fun c => c.isDigit || ('a' ≤ c && c ≤ 'f') || ('A' ≤ c && c ≤ 'F'))
      unsigned ||
    isSixty isNonzero unsigned

/-- Whether a text is the absent value. -/
def isNull (text : Text) : Bool :=
  text.isEmpty || text == ['~'] || isWord "null" text

end Kind

/-! ## Times -/

/-- What a day or time is written with. `zone` is what follows the time, without blanks. -/
structure TimeText where
  year : Text
  month : Text
  day : Text
  clock : Option (Text × Text × Text × Text × Text)
  deriving DecidableEq, Repr

namespace TimeText

/-- The digits at the beginning of a text, at most `most` of them and at least `least`, and the
rest. -/
def digits? (least most : Nat) (text : Text) : Option (Text × Text) :=
  let digits := (text.take most).takeWhile Char.isDigit
  if digits.length < least then none else some (digits, text.drop digits.length)

/-- What follows a character at the beginning of a text. -/
def behind? (c : Char) (text : Text) : Option Text :=
  Text.dropPrefix? [c] text

/-- Whether a text is a distance from universal time. -/
def isZone (zone : Text) : Bool :=
  zone.isEmpty || zone == ['Z'] ||
    ((zone.head? == some '-' || zone.head? == some '+') &&
      match digits? 1 2 zone.tail with
      | none => false
      | some (_, []) => true
      | some (_, ':' :: rest) => (digits? 2 2 rest).any fun (_, rest) => rest.isEmpty
      | some _ => false)

/-- The hour, the minute, the second, its fraction and the distance from universal time that a text
holds. -/
def clock? (text : Text) : Option (Text × Text × Text × Text × Text) := do
  let (hour, rest) ← digits? 1 2 text
  let (minute, rest) ← digits? 2 2 (← behind? ':' rest)
  let (second, rest) ← digits? 2 2 (← behind? ':' rest)
  let inFraction := rest.head? == some '.'
  let fraction := if inFraction then rest.tail.takeWhile Char.isDigit else []
  let rest := if inFraction then rest.tail.dropWhile Char.isDigit else rest
  let zone := rest.dropWhile fun c => c == ' ' || c == '\t'
  if isZone zone ∧ (zone.isEmpty → rest.isEmpty) then
    some (hour, minute, second, fraction, zone)
  else none

/-- The time behind a day: after a letter or blanks. -/
def clockBehindDay? (text : Text) : Option (Text × Text × Text × Text × Text) :=
  match text with
  | 'T' :: rest | 't' :: rest => clock? rest
  | ' ' :: rest | '\t' :: rest => clock? (rest.dropWhile fun c => c == ' ' || c == '\t')
  | _ => none

/-- The parts of a day or time. -/
def ofText? (text : Text) : Option TimeText := do
  let (year, rest) ← digits? 4 4 text
  let (month, rest) ← digits? 1 2 (← behind? '-' rest)
  let (day, rest) ← digits? 1 2 (← behind? '-' rest)
  if rest.isEmpty then return { year, month, day, clock := none }
  else return { year, month, day, clock := some (← clockBehindDay? rest) }

/-- Whether a plain text is a day or a time; of a day alone every part has all its digits. -/
def isPlainTime (text : Text) : Bool :=
  (ofText? text).any fun time =>
    time.clock.isSome || (time.month.length == 2 && time.day.length == 2)

end TimeText

namespace Kind

def withoutNewline (text : Text) : Text :=
  if text.getLast? = some '\n' then text.dropLast else text

/-- The tag of a plain text without a tag. A newline at its end does not count. -/
def ofPlain (full : Text) : Text :=
  let form := withoutNewline full
  if form.isEmpty ∧ !full.isEmpty then text
  else if isTruth form then truth
  else if isDouble form then double
  else if isInteger form then integer
  else if form = ['<', '<'] then merge
  else if isNull form then null
  else if TimeText.isPlainTime form then time
  else if form = ['='] then value
  else if form = ['!'] ∨ form = ['&'] ∨ form = ['*'] then sign
  else text

end Kind

end ScriptSite.Yaml
