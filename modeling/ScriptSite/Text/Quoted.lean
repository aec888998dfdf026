import ScriptSite.Text.Printable

/-!
# Quoted texts

The form in which a message shows a text: in quotes, with every character that could not be read
off the page escaped. Single quotes are the rule; a text that holds a single quote and no double
quote is put in double quotes, so that no quote has to be escaped.
-/

namespace ScriptSite.Text

/-- The hexadecimal digits of `n`, with zeros in front up to `width` digits. -/
def hex (width n : Nat) : Text :=
  let digits := Nat.toDigits 16 n
  List.replicate (width - digits.length) '0' ++ digits

/-- The escape of a character that cannot be shown, of two, four or eight digits. -/
def escapeCode (c : Char) : Text :=
  let n := c.toNat
  if n < 0x100 then '\\' :: 'x' :: hex 2 n
  else if n < 0x10000 then '\\' :: 'u' :: hex 4 n
  else '\\' :: 'U' :: hex 8 n

/-- A character as it stands between quotes of the given kind. -/
def quoteChar (quote c : Char) : Text :=
  if c = quote ∨ c = '\\' then ['\\', c]
  else if c = '\n' then ['\\', 'n']
  else if c = '\r' then ['\\', 'r']
  else if c = '\t' then ['\\', 't']
  else if isPrintable c then [c]
  else escapeCode c

/-- The quote that a text is put in. -/
def quoteFor (text : Text) : Char :=
  if text.contains '\'' && !text.contains '"' then '"' else '\''

def quoted (text : Text) : Text :=
  let quote := quoteFor text
  quote :: text.flatMap (quoteChar quote) ++ [quote]

/-- The bytes of a byte string in quotes, after the letter `b`. Only ASCII is shown as it is. -/
def quotedBytes (bytes : List UInt8) : Text :=
  let quote := quoteFor (bytes.map fun byte => Char.ofNat byte.toNat)
  let show1 (byte : UInt8) : Text :=
    let c := Char.ofNat byte.toNat
    if c = quote ∨ c = '\\' then ['\\', c]
    else if c = '\n' then ['\\', 'n']
    else if c = '\r' then ['\\', 'r']
    else if c = '\t' then ['\\', 't']
    else if 0x20 ≤ byte.toNat ∧ byte.toNat < 0x7F then [c]
    else '\\' :: 'x' :: hex 2 byte.toNat
  'b' :: quote :: bytes.flatMap show1 ++ [quote]

end ScriptSite.Text
