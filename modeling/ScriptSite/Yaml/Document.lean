import ScriptSite.Yaml.Node
import ScriptSite.Yaml.Stream

/-!
# Documents

Tokens make up nodes, and nodes a document. A text holds at most one document. A node may have an
anchor, by which it is referred to further on; the names of the anchors of a document differ.
-/

namespace ScriptSite.Yaml

/-- How far the tokens of a text have been used: those that are left and the fault behind them, what
the handles of tags stand for, the nodes so far, and those that have anchors. -/
structure Composer where
  tokens : List Token
  fault : Option Fault
  handles : List (Text × Text) := []
  nodes : Nodes := #[]
  anchors : List (Text × NodeId) := []

/-- Makes something of the tokens. -/
abbrev Compose (α : Type) := StateT Composer (Except Fault) α

namespace Compose

/-- The token behind the last one. -/
def beyond : Token :=
  ⟨.streamEnd, {}, {}⟩

/-- The next token; at the end of the tokens, the fault behind them is found. -/
def peek : Compose Token := do
  let composer ← get
  match composer.tokens, composer.fault with
  | token :: _, _ => return token
  | [], some fault => throw fault
  | [], none => return beyond

def peekKind : Compose TokenKind := do
  return (← peek).kind

/-- Uses the next token. -/
def next : Compose Token := do
  let token ← peek
  modify fun composer => { composer with tokens := composer.tokens.tail }
  return token

/-- Finds a fault at a place. -/
def failAt {α : Type} (context : Option (Context × Mark)) (complaint : Complaint) (mark : Mark) :
    Compose α :=
  throw (.problem
    { context := context.map Prod.fst, contextMark := context.map Prod.snd, complaint, mark })

/-- Finds a fault in the next token. -/
def failNext {α : Type} (context : Option (Context × Mark)) (complaint : Text → Complaint) :
    Compose α := do
  let token ← peek
  failAt context (complaint token.kind.shown) token.start

def addNode (node : Node) : Compose NodeId := do
  let composer ← get
  set { composer with nodes := composer.nodes.push node }
  return composer.nodes.size

/-- Adds an empty text at a place. -/
def addEmpty (start : Mark) : Compose NodeId :=
  addNode ⟨Kind.ofPlain [], start, .scalar []⟩

/-- Puts into a node what it holds. -/
def fill (id : NodeId) (content : Content) : Compose NodeId := do
  modify fun composer => { composer with nodes := composer.nodes.setContent id content }
  return id

/-! ## Properties -/

/-- What stands in front of the content of a node: its anchor, its tag, and the places where all of
it and the tag begin. -/
structure Properties where
  anchor : Option Text := none
  tag : Option (Option Text × Text) := none
  start : Option Mark := none
  tagStart : Mark := {}

/-- Reads an anchor or a tag if there is one. -/
def property (properties : Properties) : Compose Properties := do
  let token ← peek
  let start := some (properties.start.getD token.start)
  match token.kind, properties.anchor, properties.tag with
  | .anchor name, none, _ => do
    let _ ← next
    return { properties with anchor := some name, start }
  | .tag handle suffix, _, none => do
    let _ ← next
    return { properties with tag := some (handle, suffix), start, tagStart := token.start }
  | _, _, _ => return properties

/-- Reads an anchor and a tag, in any order. -/
def properties : Compose Properties := do
  let first ← property {}
  if first.start.isSome then property first else return first

def fullTag (properties : Properties) : Compose (Option Text) := do
  match properties.tag with
  | none => return none
  | some (none, suffix) => return some suffix
  | some (some handle, suffix) =>
    match (← get).handles.lookup handle with
    | some start => return some (start ++ suffix)
    | none =>
      failAt (properties.start.map fun start => (.node, start)) (.undefinedHandle handle)
        properties.tagStart

/-- Whether the kind of a node is found by its form. -/
def isUnspecific (tag : Option Text) : Bool :=
  tag.all (· == Kind.unspecific)

/-- The tag of a text. A tag that asks for the form to be looked at does so for any text. -/
def scalarTag (tag : Option Text) (text : Text) (plain : Bool) : Text :=
  match tag with
  | none => if plain then Kind.ofPlain text else Kind.text
  | some tag => if tag = Kind.unspecific then Kind.ofPlain text else tag

/-- The tag of a sequence or a mapping. -/
def collectionTag (tag : Option Text) (standard : Text) : Text :=
  if isUnspecific tag then standard else tag.getD standard

/-- Adds a node that may have an anchor, the name of which must be new. -/
def addAnchored (anchor : Option Text) (node : Node) : Compose NodeId := do
  let composer ← get
  match anchor with
  | none => addNode node
  | some name =>
    match composer.anchors.lookup name with
    | some first =>
      let firstStart := (composer.nodes.at? first).elim node.start Node.start
      failAt (some (.firstAnchor name, firstStart)) .secondAnchor node.start
    | none =>
      let id ← addNode node
      modify fun composer => { composer with anchors := (name, id) :: composer.anchors }
      return id

/-- The node that a reference stands for. -/
def referred (name : Text) (start : Mark) : Compose NodeId := do
  match (← get).anchors.lookup name with
  | some id => return id
  | none => failAt none (.undefinedReference name) start

/-! ## Nodes -/

/-- Where a node stands: outside of brackets, and there perhaps as a key or value, which may be a
sequence without an indentation of its own. -/
inductive Position
  | flow
  | block
  | blockValue
  deriving DecidableEq, Repr

/-- Whether a token in a mapping ends a key or a value that is left out. -/
def endsBlockPart : TokenKind → Bool
  | .key | .value | .blockEnd => true
  | _ => false

/-- Whether a token between brackets, of which `closing` is the second, ends a value that is left
out. -/
def endsFlowPart (closing kind : TokenKind) : Bool :=
  kind = .flowEntry ∨ kind = closing

/-- Reads the comma in front of an entry between brackets, unless the entry is the first. -/
def flowSeparator (context : Context × Mark) (complaint : Text → Complaint) (isFirst : Bool) :
    Compose Unit := do
  if !isFirst then
    if (← peekKind) = .flowEntry then
      let _ ← next
    else failNext (some context) complaint

mutual

def node (position : Position) : (fuel : Nat) → Compose NodeId
  | 0 => addEmpty {}
  | fuel + 1 => do
    let first ← peek
    match first.kind with
    | .reference name => do
      let _ ← next
      referred name first.start
    | _ => do
      let properties ← properties
      let tag ← fullTag properties
      let token ← peek
      let start := properties.start.getD token.start
      let add := fun (tag : Text) (content : Content) =>
        addAnchored properties.anchor ⟨tag, start, content⟩
      let addSequence := add (collectionTag tag Kind.sequence) (.sequence [])
      let addMapping := add (collectionTag tag Kind.mapping) (.mapping [])
      match token.kind, position with
      | .blockEntry, .blockValue => do
        let id ← addSequence
        fill id (.sequence (← indentlessItems fuel))
      | .scalar text plain, _ => do
        let _ ← next
        add (scalarTag tag text plain) (.scalar text)
      | .flowSequenceStart, _ => do
        let id ← addSequence
        let _ ← next
        fill id (.sequence (← flowItems token.start true fuel))
      | .flowMappingStart, _ => do
        let id ← addMapping
        let _ ← next
        fill id (.mapping (← flowEntries token.start true fuel))
      | kind, _ =>
        if kind = .blockSequenceStart ∧ position ≠ .flow then do
          let id ← addSequence
          let _ ← next
          fill id (.sequence (← blockItems token.start fuel))
        else if kind = .blockMappingStart ∧ position ≠ .flow then do
          let id ← addMapping
          let _ ← next
          fill id (.mapping (← blockEntries token.start fuel))
        else if properties.start.isSome then
          add (scalarTag tag [] (isUnspecific tag)) (.scalar [])
        else
          failNext (some (if position = .flow then .flowNode else .blockNode, start)) .notContent

/-- Reads the rest of a sequence in a block that began at `start`. -/
def blockItems (start : Mark) : (fuel : Nat) → Compose (List NodeId)
  | 0 => return []
  | fuel + 1 => do
    let token ← peek
    match token.kind with
    | .blockEntry => do
      let _ ← next
      let kind ← peekKind
      let item ←
        if kind = .blockEntry ∨ kind = .blockEnd then addEmpty token.stop
        else node .block fuel
      return item :: (← blockItems start fuel)
    | .blockEnd => do
      let _ ← next
      return []
    | _ => failNext (some (.blockCollection, start)) .notBlockEnd

/-- Reads the rest of a sequence without an indentation of its own. -/
def indentlessItems : (fuel : Nat) → Compose (List NodeId)
  | 0 => return []
  | fuel + 1 => do
    let token ← peek
    match token.kind with
    | .blockEntry => do
      let _ ← next
      let kind ← peekKind
      let item ←
        if kind = .blockEntry ∨ endsBlockPart kind then addEmpty token.stop
        else node .block fuel
      return item :: (← indentlessItems fuel)
    | _ => return []

/-- Reads the rest of a mapping in a block that began at `start`. -/
def blockEntries (start : Mark) : (fuel : Nat) → Compose (List (NodeId × NodeId))
  | 0 => return []
  | fuel + 1 => do
    let token ← peek
    match token.kind with
    | .key => do
      let _ ← next
      let key ← blockPart token fuel
      let value ← blockValue fuel
      return (key, value) :: (← blockEntries start fuel)
    | .blockEnd => do
      let _ ← next
      return []
    | _ => failNext (some (.blockMapping, start)) .notBlockEnd

/-- Reads a key or a value in a block behind the token that introduces it. -/
def blockPart (token : Token) : (fuel : Nat) → Compose NodeId
  | 0 => addEmpty {}
  | fuel + 1 => do
    if endsBlockPart (← peekKind) then addEmpty token.stop else node .blockValue fuel

/-- Reads the value behind a key in a block, which may be left out. -/
def blockValue : (fuel : Nat) → Compose NodeId
  | 0 => addEmpty {}
  | fuel + 1 => do
    let token ← peek
    match token.kind with
    | .value => do
      let _ ← next
      blockPart token fuel
    | _ => addEmpty token.start

/-- Reads the rest of a sequence between brackets that began at `start`. -/
def flowItems (start : Mark) (isFirst : Bool) : (fuel : Nat) → Compose (List NodeId)
  | 0 => return []
  | fuel + 1 => do
    if (← peekKind) = .flowSequenceEnd then
      let _ ← next
      return []
    else
      flowSeparator (.flowSequence, start) .notSequenceEnd isFirst
      let token ← peek
      match token.kind with
      | .key => do
        let id ← addNode ⟨Kind.mapping, token.start, .mapping []⟩
        let _ ← next
        let key ← flowKey .flowSequenceEnd token fuel
        let value ← flowValue .flowSequenceEnd fuel
        let item ← fill id (.mapping [(key, value)])
        return item :: (← flowItems start false fuel)
      | .flowSequenceEnd => do
        let _ ← next
        return []
      | _ => do
        let item ← node .flow fuel
        return item :: (← flowItems start false fuel)

/-- Reads the rest of a mapping between brackets that began at `start`. -/
def flowEntries (start : Mark) (isFirst : Bool) : (fuel : Nat) → Compose (List (NodeId × NodeId))
  | 0 => return []
  | fuel + 1 => do
    if (← peekKind) = .flowMappingEnd then
      let _ ← next
      return []
    else
      flowSeparator (.flowMapping, start) .notMappingEnd isFirst
      let token ← peek
      match token.kind with
      | .key => do
        let _ ← next
        let key ← flowKey .flowMappingEnd token fuel
        let value ← flowValue .flowMappingEnd fuel
        return (key, value) :: (← flowEntries start false fuel)
      | .flowMappingEnd => do
        let _ ← next
        return []
      | _ => do
        let key ← node .flow fuel
        let value ← addEmpty (← peek).start
        return (key, value) :: (← flowEntries start false fuel)

/-- Reads a key between brackets, of which `closing` is the second, behind the token that introduces
it. -/
def flowKey (closing : TokenKind) (token : Token) : (fuel : Nat) → Compose NodeId
  | 0 => addEmpty {}
  | fuel + 1 => do
    let kind ← peekKind
    if kind = .value ∨ endsFlowPart closing kind then addEmpty token.stop else node .flow fuel

/-- Reads the value behind a key between brackets, of which `closing` is the second. It may be left
out. -/
def flowValue (closing : TokenKind) : (fuel : Nat) → Compose NodeId
  | 0 => addEmpty {}
  | fuel + 1 => do
    let token ← peek
    match token.kind with
    | .value => do
      let _ ← next
      if endsFlowPart closing (← peekKind) then addEmpty token.stop else node .flow fuel
    | _ => addEmpty token.start

end

/-! ## Documents -/

/-- What the handles stand for that every document may use. -/
def standardHandles : List (Text × Text) :=
  [(['!'], ['!']), (['!', '!'], Kind.common)]

/-- Reads the directives in front of a document; `version` tells whether a version has been given,
and `handles` what has been defined. -/
def directives (version : Bool) (handles : List (Text × Text)) :
    (fuel : Nat) → Compose (List (Text × Text))
  | 0 => return handles
  | fuel + 1 => do
    let token ← peek
    match token.kind with
    | .directive (.version major _) => do
      let _ ← next
      if version then failAt none .secondVersion token.start
      else if major ≠ 1 then failAt none .wrongVersion token.start
      else directives true handles fuel
    | .directive (.handle handle start) => do
      let _ ← next
      if (handles.lookup handle).isSome then failAt none (.secondHandle handle) token.start
      else directives version ((handle, start) :: handles) fuel
    | .directive .other => do
      let _ ← next
      directives version handles fuel
    | _ => return handles

/-- Moves over the marks that end documents. -/
def skipDocumentEnds : (fuel : Nat) → Compose Unit
  | 0 => return
  | fuel + 1 => do
    if (← peekKind) = .documentEnd then
      let _ ← next
      skipDocumentEnds fuel

/-- Moves to the beginning of a document, which must be marked, and gives its place. At the end of
the tokens there is none. -/
def documentStart (fuel : Nat) : Compose (Option Mark) := do
  skipDocumentEnds fuel
  let token ← peek
  if token.kind = .streamEnd then return none
  else
    let handles ← directives false [] fuel
    if (← peekKind) ≠ .documentStart then failNext none .notDocumentStart
    else
      let _ ← next
      modify fun composer => { composer with handles := handles ++ standardHandles }
      return some token.start

/-- Whether a document that begins with this token is empty. -/
def isEmptyContent : TokenKind → Bool
  | .directive _ | .documentStart | .documentEnd | .streamEnd => true
  | _ => false

/-- Reads the node that holds all others, if there is a document. -/
def root (fuel : Nat) : Compose (Option NodeId) := do
  match (← peekKind) with
  | .directive _ | .documentStart | .streamEnd => do
    match ← documentStart fuel with
    | none => return none
    | some _ =>
      let token ← peek
      if isEmptyContent token.kind then return some (← addEmpty token.start)
      else return some (← node .block fuel)
  | _ => return some (← node .block fuel)

/-- Reads the only document. -/
def document (fuel : Nat) : Compose Document := do
  match ← root fuel with
  | none => return { nodes := (← get).nodes, root := none }
  | some id =>
    let nodes := (← get).nodes
    match ← documentStart fuel with
    | none => return { nodes, root := some id }
    | some start =>
      failAt ((nodes.at? id).map fun node => (.onlyDocument, node.start)) .anotherDocument start

end Compose

namespace Document

/-- The document that tokens make up. Every call of a function that reads nodes uses up a quarter of
a token or more. -/
def ofStream (stream : TokenStream) : Except Fault Document :=
  let fuel := 4 * stream.tokens.length + 8
  let composer : Composer :=
    { tokens := stream.tokens, fault := stream.fault, handles := Compose.standardHandles }
  (Compose.document fuel).run' composer

/-- Whether a character may stand in a document. -/
def isAcceptable (c : Char) : Bool :=
  let n := c.toNat
  c == '\t' || c == '\n' || c == '\r' || (0x20 ≤ n && n ≤ 0x7E) || n == 0x85 ||
    (0xA0 ≤ n && n ≤ 0xFFFD) || 0x10000 ≤ n

def ofText (text : Text) : Except Fault Document :=
  match text.findIdx? (!isAcceptable ·) with
  | some index => .error (.unacceptable (text[index]?.getD finis) index)
  | none => ofStream (.ofText text)

end Document

end ScriptSite.Yaml
