import ScriptSite.Yaml.Scalar

/-!
# Streams of tokens

A text is read token by token. Whether a token is a key is seen only at the colon behind it; then a
key token, and perhaps the beginning of a mapping, are put in front of it. Until that is decided the
token is held back, and with it all tokens behind it. So a fault in the text hides the tokens that
are held back when it is found, and only those.
-/

namespace ScriptSite.Yaml

/-- A token that may turn out to be a key: the number of tokens before it, its place, and whether it
must be a key. -/
structure Candidate where
  number : Nat
  mark : Mark
  required : Bool
  deriving DecidableEq, Repr

/-- How far a text has been read: the tokens so far in reverse order, the number of open brackets,
the indentation of the block and of those around it, whether a key may begin here, and for each
number of open brackets the token that may turn out to be a key. -/
structure Reader where
  cursor : Cursor
  tokens : List Token := []
  depth : Nat := 0
  indent : Int := -1
  outer : List Int := []
  keyAllowed : Bool := true
  candidates : List (Nat × Candidate) := []
  deriving Repr

/-- The tokens of a text up to a fault, if there is one. -/
structure TokenStream where
  tokens : List Token
  fault : Option Fault
  deriving Repr

/-- Reads tokens. -/
abbrev Read (α : Type) := StateT Reader (Except Fault) α

namespace Read

/-- Scans at the cursor. -/
def scan {α : Type} (action : Scan α) : Read α := do
  let reader ← get
  let (result, cursor) ← (action.run reader.cursor : Except Fault _)
  set { reader with cursor }
  return result

/-- The place of the cursor. -/
def here : Read Mark :=
  scan Scan.here

def column : Read Int := do
  return (← here).column

/-- Whether the cursor is between brackets. -/
def inFlow : Read Bool := do
  return 0 < (← get).depth

def emit (token : Token) : Read Unit :=
  modify fun reader => { reader with tokens := token :: reader.tokens }

/-- Adds a token without characters. -/
def emitHere (kind : TokenKind) : Read Unit := do
  let mark ← here
  emit ⟨kind, mark, mark⟩

/-- Adds a token of so many characters. -/
def emitMark (kind : TokenKind) (width : Nat) : Read Unit := do
  let start ← here
  scan (Scan.skip width)
  emit ⟨kind, start, ← here⟩

/-- Adds the token that is read at the cursor. -/
def emitScanned (kind : Scan TokenKind) : Read Unit := do
  let start ← here
  let kind ← scan kind
  emit ⟨kind, start, ← here⟩

/-- Puts a token in front of which there are `number` tokens. -/
def insert (number : Nat) (token : Token) : Read Unit :=
  modify fun reader =>
    { reader with tokens := reader.tokens.insertIdx (reader.tokens.length - number) token }

/-- Finds a fault at the cursor. -/
def fail {α : Type} (context : Option Context) (complaint : Complaint) : Read α := do
  throw (.problem { context, complaint, mark := ← here })

/-- Tells whether a key may begin at the cursor from now on. -/
def allowKey (keyAllowed : Bool) : Read Unit :=
  modify fun reader => { reader with keyAllowed }

/-! ## Keys -/

/-- Gives up on a token that may turn out to be a key; finds a fault if it must be one. -/
def giveUp (candidate : Candidate) : Read Unit := do
  if candidate.required then
    scan (Scan.fail .simpleKey candidate.mark .noColon)

/-- The number of characters before the colon that a key has at most. -/
def longestKey : Nat :=
  1024

/-- Whether a token can no longer turn out to be a key, since the cursor has moved too far. -/
def isStale (mark : Mark) (candidate : Candidate) : Bool :=
  candidate.mark.line != mark.line || longestKey < mark.index - candidate.mark.index

/-- Gives up on all tokens that can no longer turn out to be keys. -/
def dropStale : Read Unit := do
  let mark ← here
  for (_, candidate) in (← get).candidates do
    if isStale mark candidate then giveUp candidate
  modify fun reader =>
    { reader with
      candidates := reader.candidates.filter fun (_, candidate) => !isStale mark candidate }

/-- Gives up on the token between the innermost brackets that may turn out to be a key. -/
def dropCandidate : Read Unit := do
  let reader ← get
  match reader.candidates.lookup reader.depth with
  | some candidate =>
    giveUp candidate
    modify fun reader =>
      { reader with candidates := reader.candidates.filter fun (depth, _) => depth != reader.depth }
  | none => return

/-- Notes that the next token may turn out to be a key, if one may begin here. -/
def noteCandidate : Read Unit := do
  if (← get).keyAllowed then
    dropCandidate
    let reader ← get
    let mark := reader.cursor.mark
    let required := reader.depth == 0 && reader.indent == mark.column
    let candidate : Candidate := ⟨reader.tokens.length, mark, required⟩
    set { reader with candidates := (reader.depth, candidate) :: reader.candidates }

/-! ## Indentation -/

/-- Ends the blocks that are indented further than a column. -/
def closeBlocks (column : Int) : (outer : List Int) → Read Unit
  | [] => return
  | next :: outer => do
    if column < (← get).indent then
      emitHere .blockEnd
      modify fun reader => { reader with indent := next, outer }
      closeBlocks column outer

/-- Ends the blocks that are indented further than a column, unless the cursor is between brackets.
-/
def unwind (column : Int) : Read Unit := do
  if !(← inFlow) then closeBlocks column (← get).outer

/-- Begins a block at a column if it is indented further than the one it is in, and tells whether.
-/
def openBlock (column : Int) : Read Bool := do
  let reader ← get
  if reader.indent < column then
    set { reader with indent := column, outer := reader.indent :: reader.outer }
    return true
  else return false

/-- Begins a block at the cursor if it is indented further than the one it is in. -/
def openBlockHere (kind : TokenKind) : Read Unit := do
  if ← openBlock (← column) then emitHere kind

/-! ## Tokens -/

/-- Moves over spaces, comments and line ends. Outside of brackets a key may begin in a new line. -/
def skipBlank : (fuel : Nat) → Read Unit
  | 0 => return
  | fuel + 1 => do
    scan Scan.skipSpaces
    scan Scan.skipComment
    let lineEnd ← scan Scan.lineBreak
    if !lineEnd.isEmpty then
      if !(← inFlow) then allowKey true
      skipBlank fuel

def toNextToken : Read Unit := do
  if (← here).index = 0 ∧ (← scan Scan.peek) = byteOrderMark then scan (Scan.skip 1)
  skipBlank ((← scan Scan.remaining) + 1)

/-- Ends everything at the end of the text. -/
def readEnd : Read Unit := do
  unwind (-1)
  dropCandidate
  modify fun reader => { reader with keyAllowed := false, candidates := [] }
  emitHere .streamEnd

/-- Reads something that stands between documents. -/
def readBetweenDocuments (read : Read Unit) : Read Unit := do
  unwind (-1)
  dropCandidate
  allowKey false
  read

def readOpening (kind : TokenKind) : Read Unit := do
  noteCandidate
  modify fun reader => { reader with depth := reader.depth + 1, keyAllowed := true }
  emitMark kind 1

def readClosing (kind : TokenKind) : Read Unit := do
  dropCandidate
  modify fun reader => { reader with depth := reader.depth - 1, keyAllowed := false }
  emitMark kind 1

def readFlowEntry : Read Unit := do
  allowKey true
  dropCandidate
  emitMark .flowEntry 1

/-- Outside of brackets, finds a fault unless a key may begin here. -/
def requireKeyAllowed (complaint : Complaint) : Read Unit := do
  let reader ← get
  if reader.depth = 0 ∧ !reader.keyAllowed then fail none complaint

/-- Reads the dash in front of an entry. -/
def readBlockEntry : Read Unit := do
  requireKeyAllowed .entryNotAllowed
  if !(← inFlow) then openBlockHere .blockSequenceStart
  allowKey true
  dropCandidate
  emitMark .blockEntry 1

/-- Reads the mark in front of a key. -/
def readKey : Read Unit := do
  requireKeyAllowed .keyNotAllowed
  if !(← inFlow) then openBlockHere .blockMappingStart
  allowKey (!(← inFlow))
  dropCandidate
  emitMark .key 1

/-- Makes a key of a token that has been read. -/
def makeKey (candidate : Candidate) : Read Unit := do
  modify fun reader =>
    { reader with candidates := reader.candidates.filter fun (depth, _) => depth != reader.depth }
  insert candidate.number ⟨.key, candidate.mark, candidate.mark⟩
  if !(← inFlow) then
    if ← openBlock candidate.mark.column then
      insert candidate.number ⟨.blockMappingStart, candidate.mark, candidate.mark⟩
  allowKey false

/-- Reads the colon in front of a value, before which there may be a key without a mark. -/
def readValue : Read Unit := do
  let reader ← get
  match reader.candidates.lookup reader.depth with
  | some candidate => makeKey candidate
  | none =>
    requireKeyAllowed .valueNotAllowed
    if !(← inFlow) then openBlockHere .blockMappingStart
    allowKey (!(← inFlow))
    dropCandidate
  emitMark .value 1

/-- Reads something that may turn out to be a key. -/
def readCandidate (read : Read Unit) : Read Unit := do
  noteCandidate
  allowKey false
  read

/-- Reads a plain text, behind which a key may begin if its line has ended. -/
def readPlain : Read Unit := do
  let reader ← get
  let start := reader.cursor.mark
  let plain ← scan (Scan.plain (0 < reader.depth) (reader.indent + 1))
  allowKey plain.lineEnded
  emit ⟨.scalar plain.text true, start, plain.stop⟩

def readBlock : Read Unit := do
  allowKey true
  dropCandidate
  emitScanned (Scan.block (← get).indent)

/-- Whether a plain text can begin with a character before another one. -/
def beginsPlain (inFlow : Bool) (c next : Char) : Bool :=
  (!isGap c && !("-?:,[]\x7b\x7d#&*!|>'\"%@`".toList.contains c)) ||
    (!isGap next && (c == '-' || (!inFlow && (c == '?' || c == ':'))))

/-- Reads the token at the cursor. -/
def readToken : Read Unit := do
  let cursor := (← get).cursor
  let flow ← inFlow
  let c := cursor.charAt 0
  let next := cursor.charAt 1
  let lineStart := cursor.mark.column = 0
  if c = finis then readEnd
  else if c = '%' ∧ lineStart then readBetweenDocuments (do emit (← scan Scan.directive))
  else if lineStart ∧ cursor.atSeparator '-' then readBetweenDocuments (emitMark .documentStart 3)
  else if lineStart ∧ cursor.atSeparator '.' then readBetweenDocuments (emitMark .documentEnd 3)
  else if c = '[' then readOpening .flowSequenceStart
  else if c = '{' then readOpening .flowMappingStart
  else if c = ']' then readClosing .flowSequenceEnd
  else if c = '}' then readClosing .flowMappingEnd
  else if c = ',' then readFlowEntry
  else if c = '-' ∧ isGap next then readBlockEntry
  else if c = '?' ∧ (flow ∨ isGap next) then readKey
  else if c = ':' ∧ (flow ∨ isGap next) then readValue
  else if c = '*' ∨ c = '&' then readCandidate (emitScanned Scan.anchor)
  else if c = '!' then readCandidate (emitScanned Scan.tag)
  else if (c = '|' ∨ c = '>') ∧ !flow then readBlock
  else if c = '\'' ∨ c = '"' then readCandidate (emitScanned Scan.quoted)
  else if beginsPlain flow c next then readCandidate readPlain
  else fail (some .nextToken) (.cannotStartToken c)

/-- Moves to the next token and reads it. Behind it some tokens can no longer turn out to be keys.
-/
def step : Read Unit := do
  toNextToken
  dropStale
  unwind (← column)
  readToken
  dropStale

end Read

namespace TokenStream

/-- The number of tokens that are not held back. -/
def settled (reader : Reader) : Nat :=
  reader.candidates.foldl (fun least (_, candidate) => min least candidate.number)
    reader.tokens.length

/-- Whether the end of the text has been read. -/
def isComplete (reader : Reader) : Bool :=
  reader.tokens.head?.any fun token => token.kind = .streamEnd

/-- Reads tokens up to the end of the text or to a fault. -/
def readAll : (fuel : Nat) → Reader → TokenStream
  | 0, reader => ⟨reader.tokens.reverse, none⟩
  | fuel + 1, reader =>
    match Read.step.run reader with
    | .error fault => ⟨reader.tokens.reverse.take (settled reader), some fault⟩
    | .ok (_, next) =>
      if isComplete next then ⟨next.tokens.reverse, none⟩ else readAll fuel next

def ofText (text : Text) : TokenStream :=
  readAll (text.length + 1) { cursor := { rest := text } }

end TokenStream

end ScriptSite.Yaml
