import ScriptSite.Text.Quoted

/-!
# UTF-8

Texts as bytes and back. `encode` always succeeds. `decode` reads one byte at a time; it stops at
the first byte that no well-formed text can hold at that place, and tells which bytes are at fault
and why. Overlong forms, surrogates and numbers beyond the last code point are faults of the second
byte of their sequence.
-/

namespace ScriptSite

/-- The bytes of a file. -/
abbrev Bytes := List UInt8

namespace Utf8

/-- Why bytes are not UTF-8. -/
inductive Reason
  | invalidStart
  | invalidContinuation
  | unexpectedEnd
  deriving DecidableEq, Repr

def Reason.message : Reason → String
  | .invalidStart => "invalid start byte"
  | .invalidContinuation => "invalid continuation byte"
  | .unexpectedEnd => "unexpected end of data"

/-- A place where bytes are not UTF-8: the bytes from `start` up to but not including `stop`, the
first of which is `byte`. -/
structure Fault where
  start : Nat
  stop : Nat
  byte : UInt8
  reason : Reason
  deriving DecidableEq, Repr

/-- All that is to tell about a fault: the byte, or the range of the bytes if there are several, and
the reason. -/
def Fault.message (fault : Fault) : Text :=
  let bytes :=
    if fault.stop = fault.start + 1 then
      "byte 0x".toList ++ Text.hex 2 fault.byte.toNat ++ " in position ".toList ++
        Text.ofNat fault.start
    else
      "bytes in position ".toList ++ Text.ofNat fault.start ++ '-' :: Text.ofNat (fault.stop - 1)
  "'utf-8' codec can't decode ".toList ++ bytes ++ ": ".toList ++ fault.reason.message.toList

/-- Where the decoder stands between two bytes: between characters, or inside a character that
began with `byte` at `start`, owes `owed` more bytes, the next of them between `low` and `high`, and
has the number `value` so far. -/
inductive State
  | between
  | inside (start : Nat) (byte : UInt8) (owed low high value : Nat)
  deriving DecidableEq, Repr

/-- The state after the first byte of a character of several bytes. -/
def begin? (start : Nat) (byte : UInt8) : Option State :=
  let b := byte.toNat
  if b < 0xC2 then none
  else if b < 0xE0 then some (.inside start byte 1 0x80 0xBF (b - 0xC0))
  else if b < 0xF0 then
    some (.inside start byte 2 (if b = 0xE0 then 0xA0 else 0x80) (if b = 0xED then 0x9F else 0xBF)
      (b - 0xE0))
  else if b < 0xF5 then
    some (.inside start byte 3 (if b = 0xF0 then 0x90 else 0x80) (if b = 0xF4 then 0x8F else 0xBF)
      (b - 0xF0))
  else none

/-- Reads the rest of the bytes; `offset` is the place of the first of them, and `done` holds the
characters read so far in reverse order. -/
def decodeFrom (state : State) (offset : Nat) (done : Text) : Bytes → Except Fault Text
  | [] =>
    match state with
    | .between => .ok done.reverse
    | .inside start byte _ _ _ _ => .error ⟨start, offset, byte, .unexpectedEnd⟩
  | b :: rest =>
    match state with
    | .between =>
      if b.toNat < 0x80 then decodeFrom .between (offset + 1) (Char.ofNat b.toNat :: done) rest
      else
        match begin? offset b with
        | none => .error ⟨offset, offset + 1, b, .invalidStart⟩
        | some next => decodeFrom next (offset + 1) done rest
    | .inside start byte owed low high value =>
      if low ≤ b.toNat ∧ b.toNat ≤ high then
        let value := value * 64 + (b.toNat - 0x80)
        if owed ≤ 1 then decodeFrom .between (offset + 1) (Char.ofNat value :: done) rest
        else decodeFrom (.inside start byte (owed - 1) 0x80 0xBF value) (offset + 1) done rest
      else .error ⟨start, offset, byte, .invalidContinuation⟩

/-- The text that the bytes spell. -/
def decode (bytes : Bytes) : Except Fault Text :=
  decodeFrom .between 0 [] bytes

def encode (text : Text) : Bytes :=
  text.flatMap String.utf8EncodeChar

end Utf8

end ScriptSite
