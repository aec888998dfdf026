import ScriptSite.Xml.DocumentType
import ScriptSite.Xml.Element

/-!
# Documents

A document is a declaration of itself, a document type and a root element, of which only the last
has to be there. Comments and instructions may stand between and behind them. `readBytes` and
`readText` give the root element, or tell where reading stopped and why.
-/

namespace ScriptSite.Xml

/-- What a document declares about itself. -/
structure SelfDeclaration where
  encoding : Option Text := none
  /-- The document from the name of the encoding on, in the declaration. -/
  encodingStart : Text := []
  standsAlone : Bool := false
  deriving DecidableEq, Repr

namespace SelfDeclaration

/-- A setting in a declaration: its name, its value, the text from either on, and the text behind
it. -/
structure Setting where
  name : Text
  nameStart : Text
  value : Text
  valueStart : Text
  rest : Text
  deriving DecidableEq, Repr

/-- Whether a character can stand in the value of a setting. -/
def isValueChar (c : Char) : Bool :=
  c.isAlphanum || c == '.' || c == '-' || c == '_'

/-- The next setting, if there is one. A bad setting gives the text from its fault on. -/
def nextSetting? (text : Text) : Except Text (Option Setting) :=
  let nameStart := text.dropWhile isSpace
  match text, nameStart with
  | [], _ => .ok none
  | c :: _, [] => if isSpace c then .ok none else .error text
  | c :: _, d :: _ =>
    if !isSpace c then .error text
    else
      let afterName := nameStart.dropWhile fun c => c ≠ '=' && !isSpace c && c.toNat < 128
      let equals := afterName.dropWhile isSpace
      if equals.head? ≠ some '=' then .error equals
      else if d = '=' then .error nameStart
      else
        let opening := (equals.drop 1).dropWhile isSpace
        match opening with
        | [] => .error []
        | quote :: valueStart =>
          if quote ≠ '"' ∧ quote ≠ '\'' then .error opening
          else
            let behind := valueStart.dropWhile isValueChar
            if behind.head? ≠ some quote then .error behind
            else
              .ok (some {
                name := nameStart.take (nameStart.length - afterName.length), nameStart
                value := valueStart.takeWhile isValueChar, valueStart, rest := behind.drop 1 })

/-- Reads the last setting of a declaration. -/
def readStandalone (found : SelfDeclaration) (setting : Setting) : Except Text SelfDeclaration :=
  if setting.name ≠ "standalone".toList then .error setting.nameStart
  else if setting.value ≠ "yes".toList ∧ setting.value ≠ "no".toList then .error setting.valueStart
  else
    match setting.rest.dropWhile isSpace with
    | [] => .ok { found with standsAlone := setting.value = "yes".toList }
    | rest => .error rest

/-- Reads the text of a declaration: a version, then an encoding and then whether the document
stands alone, of which the last two may be missing. A fault is given as the text from it on. -/
def read (body : Text) : Except Text SelfDeclaration := do
  let some version ← nextSetting? body | .error body
  if version.name ≠ "version".toList then .error version.nameStart
  let some second ← nextSetting? version.rest | return {}
  if second.name = "encoding".toList then
    if !second.value.head?.any Char.isAlpha then .error second.valueStart
    let found : SelfDeclaration :=
      { encoding := some second.value, encodingStart := second.valueStart }
    let some third ← nextSetting? second.rest | return found
    readStandalone found third
  else readStandalone {} second

end SelfDeclaration

/-- The number of bytes that the texts of entities may give in a document of `size` bytes. -/
def entityBudget (size : Nat) : Nat :=
  max 8388608 (100 * size) - size

/-- Passes over what precedes the root element. `typed` tells whether a document type has come. -/
def prolog (ending : Ending) (budget : Nat) :
    (steps : Nat) → (typed : Bool) → Declarations → Text → Except Stop (Declarations × Text)
  | 0, _, _, _ => Stop.here .noElement
  | steps + 1, typed, declarations, text => do
    let placed ← nextLexeme ending text
    match placed.lexeme with
    | .root => return (declarations, placed.start)
    | .instruction | .comment => prolog ending budget steps typed declarations placed.rest
    | .declare keyword =>
      if !typed ∧ keyword = "DOCTYPE".toList then
        let (declarations, rest) ← DocumentType.read ending budget declarations placed.rest
        prolog ending budget steps true declarations rest
      else placed.misplaced
    | _ => placed.misplaced

/-- Passes over what follows the root element. -/
def epilog (ending : Ending) : (steps : Nat) → Text → Except Stop Unit
  | 0, _ => .ok ()
  | steps + 1, text =>
    let start := text.dropWhile isSpace
    if start.isEmpty then
      match ending with
      | .complete => .ok ()
      | ending => endStop ending .junkBehindRoot
    else
      match Lexeme.scan ending start with
      | .error halt => haltStop ending start halt
      | .ok (.instruction, rest) | .ok (.comment, rest) => epilog ending steps rest
      | .ok _ => Stop.atPlace .junkBehindRoot start

/-- The root element of a document, given what it declares about itself and the rest of it. -/
def readRest (input : Input) (standsAlone : Bool) (budget : Nat) : Except Stop Node := do
  let steps := input.text.length + 1
  let (declarations, text) ← prolog input.ending budget steps false { standsAlone } input.text
  let (root, rest) ← rootElement input.ending declarations budget text
  epilog input.ending steps rest
  return root

/-- A result in which the place where reading stopped is a position. `text` begins at `origin`. -/
def diagnose {α : Type} (origin : Position) (text : Text) : Except Stop α → Except Diagnosis α
  | .ok result => .ok result
  | .error stop =>
    let place := stop.place.getD text
    .error ⟨stop.fault, origin.advance (text.take (text.length - place.length))⟩

/-- The root element of a document that begins with a declaration of itself. `declared` is the text
of the declaration, `rest` what is behind it, and `bytes` all bytes of the document behind its byte
order mark, in the encoding `encoding` or, if `fixed`, in that encoding whatever is declared. -/
def readDeclared (fixed : Bool) (encoding : Encoding) (origin : Position) (bytes : Bytes)
    (input : Input) (budget : Nat) (declared rest : Text) : Except Diagnosis Node := do
  let behind (fault : Text) : Text := fault ++ ['?', '>'] ++ rest
  let found ← diagnose origin input.text (match SelfDeclaration.read declared with
    | .ok found => .ok found
    | .error fault => Stop.atPlace .malformedDeclaration (behind fault))
  match found.encoding with
  | none => diagnose origin input.text (readRest ⟨rest, input.ending⟩ found.standsAlone budget)
  | some name =>
    if fixed then
      diagnose origin input.text (readRest ⟨rest, input.ending⟩ found.standsAlone budget)
    else
      match encoding.declare name with
      | .error fault => diagnose origin input.text (Stop.atPlace fault (behind found.encodingStart))
      | .ok next =>
        if next = encoding then
          diagnose origin input.text (readRest ⟨rest, input.ending⟩ found.standsAlone budget)
        else
          let before := input.text.take (input.text.length - rest.length)
          let input := next.read (bytes.drop (Utf8.encode before).length)
          diagnose (origin.advance before) input.text (readRest input found.standsAlone budget)

/-- The root element of the document that bytes spell. If `fixed`, a declared encoding is ignored.
-/
def readDocument (fixed : Bool) (bytes : Bytes) : Except Diagnosis Node :=
  let (encoding, marked) := Encoding.detect bytes
  let origin : Position := { column := if marked.isSome then 1 else 0 }
  let content := marked.getD bytes
  let input := if Encoding.isUndecided bytes then ⟨[], .halfUnit⟩ else encoding.read content
  let budget := entityBudget bytes.length
  match Lexeme.scan input.ending input.text with
  | .ok (.declaration declared, rest) =>
    readDeclared fixed encoding origin content input budget declared rest
  | _ => diagnose origin input.text (readRest input false budget)

/-- The root element of a document given as bytes. -/
def readBytes (bytes : Bytes) : Except Diagnosis Node :=
  readDocument false bytes

/-- The root element of a document given as a text, whatever encoding it declares. -/
def readText (text : Text) : Except Diagnosis Node :=
  readDocument true (Utf8.encode text)

end ScriptSite.Xml
