import ScriptSite.Xml.Encoding
import ScriptSite.Xml.Entity

/-!
# Lexemes outside of elements

Before and behind the root element, and in a document type, a document is a sequence of lexemes that
blanks may separate. A lexeme that could be longer is complete at the end of the document.
-/

namespace ScriptSite.Xml

/-- The kinds of names: a name, a name with a prefix, and a word that is no name. -/
inductive NameKind
  | plain
  | prefixed
  | word
  deriving DecidableEq, Repr

/-- The pieces that the parts of a document outside of its elements consist of. -/
inductive Lexeme
  | name (kind : NameKind) (text : Text)
  /-- A name with a mark for how often it occurs. -/
  | markedName (mark : Char)
  | literal (text : Text)
  /-- The beginning of a declaration. -/
  | declare (keyword : Text)
  | conditional
  /-- The beginning of the root element. -/
  | root
  | instruction
  | declaration (body : Text)
  | comment
  | poundName (text : Text)
  | percent
  | parameterReference
  /-- A closing parenthesis, perhaps with a mark for how often the group occurs. -/
  | closeGroup (mark : Option Char)
  | punctuation (c : Char)
  deriving DecidableEq, Repr

namespace Lexeme

/-- What a scan gives that came to the end of the text behind a lexeme that may end there. -/
def atEnd (ending : Ending) (lexeme : Lexeme) : Except Halt (Lexeme × Text) :=
  if ending = .complete then .ok (lexeme, []) else .error .ended

/-- A name, of which `done` has been read in reverse order. -/
def scanName (ending : Ending) (kind : NameKind) (done : Text) :
    Text → Except Halt (Lexeme × Text)
  | [] => atEnd ending (.name kind done.reverse)
  | c :: rest =>
    if isNameChar c then scanName ending kind (c :: done) rest
    else if c = ':' then
      if kind = .plain ∧ rest.isEmpty then .error .ended
      else
        let kind := if kind = .plain ∧ rest.head?.any isNameChar then .prefixed else .word
        scanName ending kind (c :: done) rest
    else if isSpace c || ">),|[%".toList.contains c then .ok (.name kind done.reverse, c :: rest)
    else if "?*+".toList.contains c && kind ≠ .word then .ok (.markedName c, rest)
    else haltAt (c :: rest)

/-- A literal behind its first quote. -/
def scanLiteral (ending : Ending) (quote : Char) (done : Text) : Text → Except Halt (Lexeme × Text)
  | [] => .error .ended
  | c :: rest =>
    if c = quote then
      match rest with
      | [] => atEnd ending (.literal done.reverse)
      | d :: _ =>
        if isSpace d || ">%[".toList.contains d then .ok (.literal done.reverse, rest)
        else haltAt rest
    else if isAllowed c then scanLiteral ending quote (c :: done) rest
    else haltAt (c :: rest)

/-- The keyword of a declaration. -/
def scanKeyword (text : Text) : Except Halt (Lexeme × Text) :=
  let rest := text.dropWhile Char.isAlpha
  match rest with
  | ['%'] => .error .ended
  | '%' :: d :: _ =>
    if isSpace d || d == '%' then haltAt rest
    else .ok (.declare (text.takeWhile Char.isAlpha), rest)
  | c :: _ => if isSpace c then .ok (.declare (text.takeWhile Char.isAlpha), rest) else haltAt rest
  | [] => .error .ended

/-- What begins with a bracket and an exclamation mark, behind that mark. -/
def scanDeclaration : Text → Except Halt (Lexeme × Text)
  | '-' :: rest => do
    let rest ← Scan.comment rest
    return (.comment, rest)
  | '[' :: rest => .ok (.conditional, rest)
  | text =>
    if text.head?.any fun c => c.isAlpha || c == '_' then scanKeyword text else haltAt text

/-- What begins with a bracket. -/
def scanBracket (text : Text) : Text → Except Halt (Lexeme × Text)
  | '!' :: rest => scanDeclaration rest
  | '?' :: rest => do
    let (found, rest) ← Scan.instruction rest
    return (match found with
      | .other => .instruction
      | .declaration body => .declaration body, rest)
  | rest => if rest.head?.any isNameStart then .ok (.root, text) else haltAt rest

/-- What begins with a percent sign, behind that sign. -/
def scanPercent (text : Text) : Except Halt (Lexeme × Text) :=
  if text.head?.any fun c => isSpace c || c == '%' then .ok (.percent, text)
  else do
    let (_, rest) ← Scan.name text
    let rest ← Scan.char ';' rest
    return (.parameterReference, rest)

/-- What begins with a number sign, behind that sign. -/
def scanPound (ending : Ending) (text : Text) : Except Halt (Lexeme × Text) := do
  let (word, rest) ← Scan.name text
  match rest with
  | [] => atEnd ending (.poundName word)
  | c :: _ =>
    if isSpace c || ")>%|".toList.contains c then return (.poundName word, rest) else haltAt rest

/-- The lexeme that a text begins with, and the text behind it. -/
def scan (ending : Ending) : Text → Except Halt (Lexeme × Text)
  | [] => .error .ended
  | c :: rest =>
    match c, rest with
    | '<', rest => scanBracket (c :: rest) rest
    | '"', rest | '\'', rest => scanLiteral ending c [] rest
    | '%', rest => scanPercent rest
    | '#', rest => scanPound ending rest
    | ']', ']' :: '>' :: rest => .ok (.conditional, rest)
    | ']', [']'] => .error .ended
    | ']', [] => atEnd ending (.punctuation c)
    | ')', [] => atEnd ending (.closeGroup none)
    | ')', d :: rest =>
      if "*?+".toList.contains d then .ok (.closeGroup (some d), rest)
      else if isSpace d || ">,|)".toList.contains d then .ok (.closeGroup none, d :: rest)
      else haltAt (d :: rest)
    | c, rest =>
      if ",[](|>".toList.contains c then .ok (.punctuation c, rest)
      else if isNameStart c then scanName ending .plain [c] rest
      else if isNameChar c || c == ':' then scanName ending .word [c] rest
      else haltAt (c :: rest)

end Lexeme

/-- Why reading stops where a scan halts in a piece that begins with `start`. -/
def haltStop {α : Type} (ending : Ending) (start : Text) : Halt → Except Stop α
  | .invalid rest => Stop.atPlace .invalidToken rest
  | .ended =>
    match ending with
    | .malformed => Stop.atPlace .invalidToken []
    | .truncated => Stop.atPlace .partialCharacter start
    | .complete | .halfUnit => Stop.atPlace .unclosedToken start

/-- Why reading stops at the end of the text if it must not, with `fault` if the document ends
there. -/
def endStop {α : Type} (ending : Ending) (fault : Fault) : Except Stop α :=
  match ending with
  | .complete => Stop.atPlace fault []
  | .malformed => Stop.atPlace .invalidToken []
  | .truncated => Stop.atPlace .partialCharacter []
  | .halfUnit => Stop.atPlace .unclosedToken []

/-- A lexeme in its place. -/
structure PlacedLexeme where
  lexeme : Lexeme
  /-- The document from the lexeme on. -/
  start : Text
  /-- The document behind the lexeme. -/
  rest : Text
  deriving Repr

/-- The next lexeme of a text that has to go on. -/
def nextLexeme (ending : Ending) (text : Text) : Except Stop PlacedLexeme :=
  let start := text.dropWhile isSpace
  if start.isEmpty then endStop ending .noElement
  else
    match Lexeme.scan ending start with
    | .ok (lexeme, rest) => .ok ⟨lexeme, start, rest⟩
    | .error halt => haltStop ending start halt

/-- Stops at a lexeme that cannot stand where it is. -/
def PlacedLexeme.misplaced {α : Type} (placed : PlacedLexeme) : Except Stop α :=
  Stop.atPlace
    (match placed.lexeme with
      | .parameterReference => .illegalParameterReference
      | .declaration _ => .misplacedDeclaration
      | _ => .misplaced)
    placed.start

end ScriptSite.Xml
