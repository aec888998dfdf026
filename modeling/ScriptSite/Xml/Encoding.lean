import ScriptSite.Text.Utf8
import ScriptSite.Xml.CodePage
import ScriptSite.Xml.Fault

/-!
# Encodings of XML

How the bytes of a document spell its characters. The first bytes tell whether a document is in
UTF-8 or in one of the two forms of UTF-16; a declaration can then replace UTF-8 by a code page.

Bytes that spell no character do not matter until the reader gets there. Reading an input therefore
always gives a text, the longest that the bytes spell from their start on, and tells how it ends.
-/

namespace ScriptSite.Xml

/-- How bytes spell characters. Of encodings that are none of these only the names are known, and a
document in one of them is not read. -/
inductive Encoding
  | utf8
  | utf16 (bigEndian : Bool)
  | codePage (page : CodePage)
  deriving DecidableEq, Repr

/-- How the text of an input ends: with its last byte, before bytes that spell no character, inside
a character, or inside a unit of its encoding. -/
inductive Ending
  | complete
  | malformed
  | truncated
  | halfUnit
  deriving DecidableEq, Repr

/-- The text of a document as far as it can be read. -/
structure Input where
  text : Text
  ending : Ending := .complete
  deriving DecidableEq, Repr

/-- The text that bytes spell in a code page. -/
def CodePage.read (page : CodePage) : Bytes → Input
  | [] => ⟨[], .complete⟩
  | byte :: rest =>
    match page.char? byte with
    | none => ⟨[], .malformed⟩
    | some c =>
      let input := page.read rest
      ⟨c :: input.text, input.ending⟩

/-- The number of bytes of the characters that begin with a byte in UTF-8. -/
def utf8Length (byte : UInt8) : Nat :=
  let n := byte.toNat
  if 0xC0 ≤ n ∧ n < 0xE0 then 2 else if 0xE0 ≤ n ∧ n < 0xF0 then 3
  else if 0xF0 ≤ n ∧ n < 0xF5 then 4 else 1

/-- The text that bytes spell in UTF-8. -/
def readUtf8 (bytes : Bytes) : Input :=
  match Utf8.decode bytes with
  | .ok text => ⟨text, .complete⟩
  | .error fault =>
    let text := (Utf8.decode (bytes.take fault.start)).toOption.getD []
    if bytes.length < fault.start + utf8Length fault.byte then ⟨text, .truncated⟩
    else ⟨text, .malformed⟩

/-- The number that two bytes spell. -/
def unit16 (bigEndian : Bool) (first second : UInt8) : Nat :=
  if bigEndian then first.toNat * 256 + second.toNat else second.toNat * 256 + first.toNat

/-- The text that bytes spell in UTF-16. -/
def readUtf16 (bigEndian : Bool) : Bytes → Input
  | [] => ⟨[], .complete⟩
  | [_] => ⟨[], .halfUnit⟩
  | a :: b :: rest =>
    let high := unit16 bigEndian a b
    if high < 0xD800 ∨ 0xE000 ≤ high then
      let input := readUtf16 bigEndian rest
      ⟨Char.ofNat high :: input.text, input.ending⟩
    else
      match rest with
      | c :: d :: rest =>
        let low := unit16 bigEndian c d
        if high < 0xDC00 ∧ 0xDC00 ≤ low ∧ low < 0xE000 then
          let input := readUtf16 bigEndian rest
          let c := Char.ofNat (0x10000 + (high - 0xD800) * 0x400 + (low - 0xDC00))
          ⟨c :: input.text, input.ending⟩
        else ⟨[], .malformed⟩
      | _ => ⟨[], if high < 0xDC00 then .truncated else .malformed⟩

namespace Encoding

/-- The text that bytes spell. -/
def read : Encoding → Bytes → Input
  | .utf8, bytes => readUtf8 bytes
  | .utf16 bigEndian, bytes => readUtf16 bigEndian bytes
  | .codePage page, bytes => page.read bytes

/-- The encoding that the first bytes of a document show, and the bytes behind its byte order mark,
if it has one. -/
def detect : Bytes → Encoding × Option Bytes
  | [] => (.utf8, none)
  | [_] => (.utf8, none)
  | first :: second :: rest =>
    if first = 0xFE ∧ second = 0xFF then (.utf16 true, some rest)
    else if first = 0xFF ∧ second = 0xFE then (.utf16 false, some rest)
    else if first = 0xEF ∧ second = 0xBB ∧ rest.head? = some 0xBF then (.utf8, some (rest.drop 1))
    else if first = 0 then (.utf16 true, none)
    else if second = 0 then (.utf16 false, none)
    else (.utf8, none)

/-- Whether bytes are too few to show an encoding. -/
def isUndecided (bytes : Bytes) : Bool :=
  bytes == [0x00] || bytes == [0xEF] || bytes == [0xFE] || bytes == [0xFF] || bytes == [0xEF, 0xBB]

/-- Whether characters have two bytes at least. -/
def isWide : Encoding → Bool
  | .utf16 _ => true
  | _ => false

/-- The encoding of the rest of a document that declares its encoding by name. It has to agree with
the encoding in which the declaration itself was read. -/
def declare (current : Encoding) (name : Text) : Except Fault Encoding :=
  let agreed (encoding : Encoding) : Except Fault Encoding :=
    if encoding.isWide ≠ current.isWide ∨ (encoding.isWide ∧ encoding ≠ current) then
      .error .incorrectEncoding
    else .ok encoding
  match String.ofList (Text.lower name) with
  | "utf-8" => agreed .utf8
  | "iso-8859-1" => agreed (.codePage .latin1)
  | "us-ascii" => agreed (.codePage .ascii)
  | "utf-16" => if current.isWide then .ok current else .error .incorrectEncoding
  | "utf-16be" => agreed (.utf16 true)
  | "utf-16le" => agreed (.utf16 false)
  | _ =>
    match CodePage.named? name with
    | some page => .ok (.codePage page)
    | none =>
      if CodePage.isUnfit name then .error .unfitEncoding
      else if CodePage.isWider name then .error .widerEncoding
      else .error (.unknownEncoding name)

end Encoding

end ScriptSite.Xml
