import ScriptSite.Text.Utf8

/-!
# Base64

Bytes written with sixty-four letters, each of which stands for six bits. Other characters between
the letters mean nothing. Padding ends the bytes where it completes a group of four, and a group
must be complete.
-/

namespace ScriptSite

namespace Base64

/-- Why letters do not make up bytes. -/
inductive Fault
  /-- The last group is not complete. -/
  | badPadding
  /-- The last of so many letters stands alone. -/
  | loneLetter (letters : Nat)
  deriving DecidableEq, Repr

def Fault.message : Fault → Text
  | .badPadding => "Incorrect padding".toList
  | .loneLetter letters =>
    "Invalid base64-encoded string: number of data characters (".toList ++ Text.ofNat letters ++
      ") cannot be 1 more than a multiple of 4".toList

/-- The six bits that a letter stands for. -/
def letterValue? (c : Char) : Option Nat :=
  if c.isUpper then some (c.toNat - 'A'.toNat)
  else if c.isLower then some (c.toNat - 'a'.toNat + 26)
  else if c.isDigit then some (c.toNat - '0'.toNat + 52)
  else if c = '+' then some 62
  else if c = '/' then some 63
  else none

/-- The bytes that six-bit values make up; bits that fill no byte are dropped. -/
def bytesOf : List Nat → Bytes
  | a :: b :: c :: d :: rest =>
    UInt8.ofNat (a * 4 + b / 16) :: UInt8.ofNat (b % 16 * 16 + c / 4) ::
      UInt8.ofNat (c % 4 * 64 + d) :: bytesOf rest
  | [a, b, c] => [UInt8.ofNat (a * 4 + b / 16), UInt8.ofNat (b % 16 * 16 + c / 4)]
  | [a, b] => [UInt8.ofNat (a * 4 + b / 16)]
  | _ => []

/-- Whether the number of letters leaves no group open. -/
def finish (values : List Nat) : Except Fault Bytes :=
  match values.length % 4 with
  | 0 => .ok (bytesOf values)
  | 1 => .error (.loneLetter values.length)
  | _ => .error .badPadding

/-- Reads letters; `values` holds those before in reverse order, and `pads` counts the padding since
the last of them. -/
def decodeFrom (values : List Nat) (pads : Nat) : Text → Except Fault Bytes
  | [] => finish values.reverse
  | '=' :: rest =>
    let place := values.length % 4
    if place < 2 then decodeFrom values pads rest
    else if 4 ≤ place + (pads + 1) then .ok (bytesOf values.reverse)
    else decodeFrom values (pads + 1) rest
  | c :: rest =>
    match letterValue? c with
    | some value => decodeFrom (value :: values) 0 rest
    | none => decodeFrom values pads rest

/-- The bytes that a text spells. -/
def decode (text : Text) : Except Fault Bytes :=
  decodeFrom [] 0 text

end Base64

end ScriptSite
