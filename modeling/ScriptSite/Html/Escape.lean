import ScriptSite.Text.Basic

/-!
# Character entities

Text is put into HTML by writing the characters that mean something to HTML as entities. Code inside
a preformatted block needs three of them (`escapeCode`); text that may also stand in an attribute
needs the two quotes as well (`escape`). Each character is written on its own, so what is already an
entity is escaped again, and reading the entities back (`decodeEntities`) gives the text back.
-/

namespace ScriptSite.Html

/-- A character inside a preformatted block. -/
def codeEntity (c : Char) : Text :=
  if c = '&' then "&amp;".toList
  else if c = '<' then "&lt;".toList
  else if c = '>' then "&gt;".toList
  else [c]

/-- A character inside an element or a quoted attribute. -/
def textEntity (c : Char) : Text :=
  if c = '"' then "&quot;".toList
  else if c = '\'' then "&#x27;".toList
  else codeEntity c

/-- Code as it stands in a preformatted block. -/
def escapeCode (code : Text) : Text :=
  code.flatMap codeEntity

/-- Text as it stands in an element or in a quoted attribute. -/
def escape (text : Text) : Text :=
  text.flatMap textEntity

/-- The entities that escaping writes, with the characters they stand for. -/
def entities : List (Text × Char) :=
  [("&amp;".toList, '&'), ("&lt;".toList, '<'), ("&gt;".toList, '>'), ("&quot;".toList, '"'),
    ("&#x27;".toList, '\'')]

/-- The entity of the list that a text begins with: its character and the text after it. -/
def leadingEntity? (known : List (Text × Char)) (text : Text) : Option (Char × Text) :=
  known.findSome? fun (entity, c) => (Text.dropPrefix? entity text).map fun rest => (c, rest)

/-- The text whose entities of the list are read back, in one pass from left to right; `steps`
bounds the number of characters read. -/
def decodeWith (known : List (Text × Char)) : (steps : Nat) → Text → Text
  | 0, text => text
  | _ + 1, [] => []
  | steps + 1, c :: rest =>
    match leadingEntity? known (c :: rest) with
    | some (d, after) => d :: decodeWith known steps after
    | none => c :: decodeWith known steps rest

/-- The text that an escaped text stands for. -/
def decodeEntities (text : Text) : Text :=
  decodeWith entities text.length text

/-- The code that an escaped code stands for: only the three entities of `escapeCode` are read. -/
def decodeCodeEntities (text : Text) : Text :=
  decodeWith (entities.take 3) text.length text

@[simp]
theorem escapeCode_append (left right : Text) :
    escapeCode (left ++ right) = escapeCode left ++ escapeCode right :=
  List.flatMap_append

@[simp]
theorem escape_append (left right : Text) : escape (left ++ right) = escape left ++ escape right :=
  List.flatMap_append

end ScriptSite.Html
