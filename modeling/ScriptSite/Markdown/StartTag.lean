import ScriptSite.Text.Lower

/-!
# Start tags

How far an HTML start tag reaches in running text, and what it is. Authors write tags by hand, so
the rule is generous: attributes may lack quotes, values and separating blanks, and slashes may
stand between them. A backtick ends a tag, because it opens code.
-/

namespace ScriptSite.Markdown

/-- A place in a text: the character before it and the text after it. -/
structure Cursor where
  before : Option Char
  rest : Text

namespace Cursor

/-- The place after the characters of the class `p` that follow. -/
def skipWhile (p : Char → Bool) : Option Char → Text → Cursor
  | before, [] => ⟨before, []⟩
  | before, c :: rest => if p c then skipWhile p (some c) rest else ⟨before, c :: rest⟩

/-- The place after the next `n` characters. -/
def skip : Nat → Cursor → Cursor
  | n + 1, ⟨_, c :: rest⟩ => skip n ⟨some c, rest⟩
  | _, cursor => cursor

/-- The place after the blanks, and after the slashes that do not close a tag, that follow. -/
def skipGap : Option Char → Text → Cursor
  | before, [] => ⟨before, []⟩
  | before, '/' :: '>' :: rest => ⟨before, '/' :: '>' :: rest⟩
  | before, c :: rest =>
    if isBlank c || c == '/' then skipGap (some c) rest else ⟨before, c :: rest⟩

/-- The place after the next character that equals `quote`, if there is one. -/
def skipPast? (quote : Char) : Text → Option Cursor
  | [] => none
  | c :: rest => if c = quote then some ⟨some c, rest⟩ else skipPast? quote rest

end Cursor

namespace StartTag

/-- Whether a character can stand in a tag name. -/
def isNameChar (c : Char) : Bool :=
  !(['\t', '\n', '\r', '\x0c', ' ', '/', '>', '\x00'].contains c)

/-- The place after an attribute value, if one follows: blanks, equals signs, blanks, and a value in
quotes or a bare value. `stops` is the class of characters, besides blanks, that end a bare value.
A quote that is never closed is not part of the value. -/
def skipValue? (stops : Char → Bool) (cursor : Cursor) : Option Cursor :=
  let toSign := Cursor.skipWhile isBlank cursor.before cursor.rest
  let signs := toSign.rest.takeWhile (· == '=')
  if signs.isEmpty then none
  else
    let afterSigns := Cursor.skipWhile (· == '=') toSign.before toSign.rest
    let blanks := afterSigns.rest.takeWhile isBlank
    let value := Cursor.skipWhile isBlank afterSigns.before afterSigns.rest
    let bare (from_ : Cursor) : Cursor :=
      Cursor.skipWhile (fun c => !isBlank c && !stops c) from_.before from_.rest
    let quoted? : Option Cursor :=
      match value.rest with
      | '\'' :: rest => Cursor.skipPast? '\'' rest
      | '"' :: rest => Cursor.skipPast? '"' rest
      | _ => some (bare value)
    match quoted? with
    | some after => some after
    | none =>
      if !blanks.isEmpty then some (afterSigns.skip (blanks.length - 1))
      else if 2 ≤ signs.length then some (bare (toSign.skip (signs.length - 1)))
      else none

/-- The place after the commas that follow, each with the blanks before it. -/
def skipCommas : (steps : Nat) → Cursor → Cursor
  | 0, cursor => cursor
  | steps + 1, cursor =>
    let toComma := Cursor.skipWhile isBlank cursor.before cursor.rest
    match toComma.rest with
    | ',' :: rest => skipCommas steps ⟨some ',', rest⟩
    | _ => cursor

/-- The place after an attribute and the gap behind it, if an attribute follows. With `strict`, no
backtick may begin a name or stand in a bare value. -/
def skipAttribute? (strict : Bool) (cursor : Cursor) : Option Cursor :=
  let separated := cursor.before.any fun c => isBlank c || c == '/' || c == '\'' || c == '"'
  match cursor.rest with
  | [] => none
  | c :: rest =>
    if !separated || isBlank c || c == '/' || c == '>' || (strict && c == '`') then none
    else
      let named := Cursor.skipWhile
        (fun c => !isBlank c && c != '/' && c != '=' && c != '>') (some c) rest
      let valued :=
        match skipValue? (fun c => c == '>' || (strict && c == '`')) named with
        | some after => if strict then skipCommas after.rest.length after else after
        | none => named
      some (Cursor.skipGap valued.before valued.rest)

/-- The place after all attributes that follow, up to `steps` of them. -/
def skipAttributes (strict : Bool) : (steps : Nat) → Cursor → Cursor
  | 0, cursor => cursor
  | steps + 1, cursor =>
    match skipAttribute? strict cursor with
    | some after => skipAttributes strict steps after
    | none => cursor

/-- The place after the attributes that begin within the next `room` characters. -/
def skipAttributesWithin : (steps : Nat) → (room : Nat) → Cursor → Cursor
  | 0, _, cursor => cursor
  | steps + 1, room, cursor =>
    if room = 0 then cursor
    else
      match skipAttribute? false cursor with
      | some after =>
        skipAttributesWithin steps (room - (cursor.rest.length - after.rest.length)) after
      | none => cursor

/-- The length of the start tag that a text begins with, if it is closed. The text begins with a
less-than sign and a letter. -/
def length? (text : Text) : Option Nat :=
  let name := Cursor.skipWhile (fun c => isNameChar c && c != '`') (text[1]?) (text.drop 2)
  let gap := Cursor.skipWhile (fun c => isBlank c || c == '/') name.before name.rest
  let attributes := skipAttributes true gap.rest.length gap
  let final := attributes.rest.dropWhile isBlank
  let length := text.length - final.length
  match final with
  | '>' :: _ => some (length + 1)
  | '/' :: '>' :: _ => some (length + 2)
  | [] | '/' :: _ => none
  | c :: _ => if c.isAlpha || c == '=' then none else some length

/-- The place after a tag name and the gap behind it, and the name in lower case. -/
def name (text : Text) : Text × Cursor :=
  let after := Cursor.skipWhile isNameChar none text
  (Text.lower (text.take (text.length - after.rest.length)),
    Cursor.skipGap (text.take (text.length - after.rest.length)).getLast? after.rest)

end StartTag

/-- A start tag in running text: its name in lower case, its length and whether it closes itself. A
text that looks like a tag but does not end like one is no tag. -/
inductive StartTag
  | tag (name : Text) (length : Nat) (selfClosing : Bool)
  | junk (length : Nat)

/-- The start tag that a text, which begins with a less-than sign and a letter, begins with. -/
def StartTag.read (text : Text) : StartTag :=
  match length? text with
  | none => .junk 1
  | some length =>
    let (tagName, after) := name (text.drop 1)
    let used := text.length - after.rest.length
    let attributes := skipAttributesWithin length (length - used) after
    let close := Text.trim ((text.take length).drop (text.length - attributes.rest.length))
    if close = ['>'] then .tag tagName length false
    else if close = ['/', '>'] then .tag tagName length true
    else .junk length

end ScriptSite.Markdown
