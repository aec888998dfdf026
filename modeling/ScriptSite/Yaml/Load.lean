import ScriptSite.Number.Read
import ScriptSite.Text.Lower
import ScriptSite.Yaml.Document
import ScriptSite.Yaml.SetOrder

/-!
# Loading values

The value of a document is built from its nodes. Collections are built one after the other in the
order in which they are met, so that all nodes on one level are built before those inside of them;
of several faults the first in this order counts. A mapping may take over entries of others with a
merge key; its own entries come behind them and override them.
-/

namespace ScriptSite.Yaml

/-- How far the value of a document has been built: its nodes, the collections that are still to be
built, those that have been met, and those that have been built. -/
structure Builder where
  nodes : Nodes
  waiting : List NodeId := []
  met : List NodeId := []
  collections : List (NodeId × Collection) := []

/-- Builds something from nodes. -/
abbrev Build (α : Type) := StateT Builder (Except Fault) α

namespace Build

def absentNode : Node :=
  ⟨Kind.null, {}, .scalar []⟩

def nodeAt (id : NodeId) : Build Node := do
  return ((← get).nodes.at? id).getD absentNode

/-- Finds a fault at a place. -/
def fail {α : Type} (complaint : Complaint) (mark : Mark) : Build α :=
  throw (.problem { complaint, mark })

/-- Finds a fault at a place in something that begins at `start`. -/
def failIn {α : Type} (context : Context) (start : Mark) (complaint : Complaint) (mark : Mark) :
    Build α :=
  throw (.problem { context := some context, contextMark := some start, complaint, mark })

/-! ## Merging -/

def tagOf (id : NodeId) : Build Text := do
  return (← nodeAt id).tag

/-- The entries of a mapping without merge keys, and the values of the merge keys. A key that stands
for the mapping becomes a text. -/
def partEntries : List (NodeId × NodeId) → Build (List (NodeId × NodeId) × List NodeId)
  | [] => return ([], [])
  | (key, value) :: rest => do
    let tag ← tagOf key
    if tag = Kind.value then
      modify fun builder => { builder with nodes := builder.nodes.setTag key Kind.text }
    let (own, merged) ← partEntries rest
    if tag = Kind.merge then return (own, value :: merged) else return ((key, value) :: own, merged)

/-- The entries that a node holds as a mapping. -/
def entriesAt (id : NodeId) : Build (List (NodeId × NodeId)) := do
  match (← nodeAt id).content with
  | .mapping entries => return entries
  | _ => return []

/-- The entries that a merge key with a value takes over, given how the entries of a mapping are
found. The value is a mapping or a sequence of mappings, the last of which comes first. -/
def takenEntries (entriesOf : NodeId → Build (List (NodeId × NodeId))) (start : Mark)
    (value : NodeId) :
    Build (List (NodeId × NodeId)) := do
  let node ← nodeAt value
  match node.content with
  | .mapping _ => entriesOf value
  | .sequence items => do
    let taken ← items.mapM fun id => do
      let item ← nodeAt id
      match item.content with
      | .mapping _ => entriesOf id
      | content => failIn .mapping start (.notMergeableEntry content.shown) item.start
    return taken.reverse.flatten
  | .scalar _ => failIn .mapping start (.notMergeable node.content.shown) node.start

/-- The entries of a mapping, those that merge keys take over in front of the others. The mapping
holds them from then on. -/
def flatEntries : (fuel : Nat) → NodeId → Build (List (NodeId × NodeId))
  | 0, _ => return []
  | fuel + 1, id => do
    let start := (← nodeAt id).start
    let (own, merged) ← partEntries (← entriesAt id)
    modify fun builder => { builder with nodes := builder.nodes.setContent id (.mapping own) }
    let taken ← merged.mapM (takenEntries (flatEntries fuel) start)
    let entries := taken.flatten ++ own
    modify fun builder => { builder with nodes := builder.nodes.setContent id (.mapping entries) }
    return entries

/-! ## Scalars -/

/-- The text that a node holds. A mapping with a key that stands for it is taken for its value. -/
def scalarText : (fuel : Nat) → NodeId → Build Text
  | 0, _ => throw .endless
  | fuel + 1, id => do
    let node ← nodeAt id
    match node.content with
    | .scalar text => return text
    | .sequence _ => fail (.notScalar node.content.shown) node.start
    | .mapping entries => do
      let tags ← entries.mapM fun (key, _) => tagOf key
      match (tags.zip entries).find? fun (tag, _) => tag == Kind.value with
      | some (_, _, value) => scalarText fuel value
      | none => fail (.notScalar node.content.shown) node.start

/-- The truth value that a word stands for. -/
def truth? (text : Text) : Option Bool :=
  let word := text.lower
  if ["yes", "true", "on"].any (·.toList == word) then some true
  else if ["no", "false", "off"].any (·.toList == word) then some false
  else none

/-- The parts of a number with a base of sixty. -/
def sixtieths (text : Text) : List Text :=
  Text.splitWhere (· == ':') text

/-- The integer that a text without sign is written for, with the base that its beginning tells. -/
def unsignedInteger? (text : Text) : Option Int :=
  match text with
  | ['0'] => some 0
  | '0' :: 'b' :: digits => Number.integer? 2 digits
  | '0' :: 'x' :: digits => Number.integer? 16 digits
  | '0' :: _ => Number.integer? 8 text
  | _ =>
    if text.contains ':' then
      (sixtieths text).foldl (fun sum? part => do
        let sum ← sum?
        return sum * 60 + (← Number.integer? 10 part)) (some 0)
    else Number.integer? 10 text

/-- The integer that a text is written for. Underscores do not count. -/
def integer (text : Text) : Except Fault Int :=
  let (negative, digits) := Number.splitSign (text.filter (· ≠ '_'))
  if digits.isEmpty then .error .emptyNumber
  else
    match unsignedInteger? digits with
    | some number => .ok (if negative then -number else number)
    | none => .error .notNumber

/-- The number with these parts and a base of sixty, summed up from the last part to the first. -/
def sumOfSixtieths (parts : List Double) : Except Fault Double := do
  let (sum, _) ← parts.reverse.foldlM (fun (sum, base) part =>
      match Double.ofNat base with
      | .finite negative mantissa exponent =>
        .ok (sum.plus (part.times (.finite negative mantissa exponent)), base * 60)
      | _ => .error .tooManyParts)
    (Double.ofNat 0, 1)
  return sum

/-- A number that has been read, if it is one. -/
def readDouble (number? : Option Double) : Except Fault Double :=
  match number? with
  | some number => .ok number
  | none => .error .notNumber

/-- The number of double precision that a text without sign is written for. -/
def unsignedDouble (text : Text) : Except Fault Double :=
  if text = ".inf".toList then .ok (.infinite false)
  else if text = ".nan".toList then .ok .nan
  else if text.contains ':' then do
    sumOfSixtieths (← (sixtieths text).mapM fun part => readDouble (Number.double? part))
  else readDouble (Number.double? text)

/-- The number of double precision that a text is written for. Underscores do not count. -/
def double (text : Text) : Except Fault Double := do
  let (negative, digits) := Number.splitSign (Text.lower (text.filter (· ≠ '_')))
  if text.all (· == '_') then .error .emptyNumber
  else
    let number ← unsignedDouble digits
    return if negative then number.negate else number

/-- The number that decimal digits make up. -/
def natOf (digits : Text) : Nat :=
  digits.foldl (fun sum c => sum * 10 + (c.toNat - '0'.toNat)) 0

/-- A distance from universal time in minutes. -/
def offsetOf? (zone : Text) : Option Int :=
  match zone with
  | [] => none
  | ['Z'] => some 0
  | sign :: rest =>
    let hours := natOf (rest.takeWhile (· ≠ ':'))
    let minutes : Int := hours * 60 + natOf ((rest.dropWhile (· ≠ ':')).drop 1)
    some (if sign = '-' then -minutes else minutes)

/-- The millionths of a second that the digits of a fraction stand for; further digits do not count.
-/
def microOf (fraction : Text) : Nat :=
  let digits := fraction.take 6
  natOf (digits ++ List.replicate (6 - digits.length) '0')

/-- The day or time with these parts. -/
def timeOf (time : TimeText) : Except Fault Value :=
  let date : Date := ⟨natOf time.year, natOf time.month, natOf time.day⟩
  match time.clock with
  | none => if date.isValid then .ok (.date date) else .error .impossibleTime
  | some (hour, minute, second, fraction, zone) =>
    let moment : Moment :=
      { date, hour := natOf hour, minute := natOf minute, second := natOf second,
        micro := microOf fraction, offset := offsetOf? zone }
    if moment.isValid then .ok (.moment moment) else .error .impossibleTime

/-- The day or time that a text is written for. -/
def time (text : Text) : Except Fault Value :=
  match TimeText.ofText? (Kind.withoutNewline text) with
  | some time => timeOf time
  | none => .error .notTime

/-- The run of characters beyond ASCII that comes first in a text: its first character, where it
begins, and where it ends. -/
def beyondAscii? (text : Text) : Option (Char × Nat × Nat) :=
  let start := (text.takeWhile (·.toNat < 128)).length
  let run := (text.drop start).takeWhile (128 ≤ ·.toNat)
  run.head?.map fun first => (first, start, start + run.length)

/-- The bytes that a text at a place is written for. -/
def binary (start : Mark) (text : Text) : Build Value :=
  match beyondAscii? text with
  | some (first, begin, stop) => fail (.notAscii begin stop first) start
  | none =>
    match Base64.decode text with
    | .ok bytes => return .binary bytes
    | .error fault => fail (.notBase64 fault) start

/-! ## Values -/

/-- The number of a collection, which is to be built if it has not been met. -/
def meet (id : NodeId) : Build Value := do
  let builder ← get
  if !builder.met.contains id then
    set { builder with waiting := builder.waiting ++ [id], met := id :: builder.met }
  return .collection id

/-- The number of nodes, and one more. -/
def depth : Build Nat := do
  return (← get).nodes.size + 1

def collectionKinds : List Text :=
  [Kind.sequence, Kind.mapping, Kind.set, Kind.orderedMap, Kind.pairs]

/-- The kinds of scalars that are read from their text alone. -/
def scalarKinds : List Text :=
  [Kind.null, Kind.truth, Kind.integer, Kind.double, Kind.binary, Kind.text]

/-- The day or time that a node holds. -/
def timeAt (id : NodeId) : Build Value := do
  let text ← scalarText (← depth) id
  match (← nodeAt id).content with
  | .scalar _ => time text
  | _ => throw .timeOfMapping

def value (id : NodeId) : Build Value := do
  let node ← nodeAt id
  let tag := node.tag
  if collectionKinds.contains tag then meet id
  else if tag = Kind.time then timeAt id
  else if !scalarKinds.contains tag then fail (.unknownTag tag) node.start
  else
    let text ← scalarText (← depth) id
    if tag = Kind.null then return .null
    else if tag = Kind.truth then
      match truth? text with
      | some holds => return .truth holds
      | none => throw .notTruthValue
    else if tag = Kind.integer then return .integer (← integer text)
    else if tag = Kind.double then return .double (← double text)
    else if tag = Kind.binary then binary node.start text
    else return .text text

def isKey : Value → Bool
  | .collection _ => false
  | _ => true

/-- The entries of a mapping that begins at `start`, added to those before. -/
def entryValues (start : Mark) (before : List (Value × Value)) :
    List (NodeId × NodeId) → Build (List (Value × Value))
  | [] => return before
  | (key, content) :: rest => do
    let keyValue ← value key
    if !isKey keyValue then failIn .mapping start .unhashableKey (← nodeAt key).start
    else
      let contentValue ← value content
      entryValues start (Value.putEntry keyValue contentValue before) rest

/-- The entries of a node, which must be a mapping. -/
def mappingEntries (id : NodeId) : Build (List (Value × Value)) := do
  let node ← nodeAt id
  match node.content with
  | .mapping _ => do
    entryValues node.start [] (← flatEntries (← depth) id)
  | content => fail (.notMapping content.shown) node.start

/-- The values of the items of a node, which must be a sequence. -/
def sequenceItems (id : NodeId) : Build (List Value) := do
  let node ← nodeAt id
  match node.content with
  | .sequence items => items.mapM value
  | content => fail (.notSequence content.shown) node.start

/-- The pair that an item of a sequence stands for: a mapping with one entry. -/
def pair (context : Context) (start : Mark) (id : NodeId) : Build (Value × Value) := do
  let node ← nodeAt id
  match node.content with
  | .mapping [(key, content)] => do
    let keyValue ← value key
    return (keyValue, ← value content)
  | .mapping entries => failIn context start (.severalEntries entries.length) node.start
  | content => failIn context start (.notOneEntry content.shown) node.start

/-- The pairs that a node holds, which must be a sequence. -/
def pairEntries (context : Context) (id : NodeId) : Build (List (Value × Value)) := do
  let node ← nodeAt id
  match node.content with
  | .sequence items => items.mapM (pair context node.start)
  | content => failIn context node.start (.notSequenceOfEntries content.shown) node.start

/-- What a collection holds. -/
def collection (id : NodeId) : Build Collection := do
  let tag ← tagOf id
  if tag = Kind.sequence then return .sequence (← sequenceItems id)
  else if tag = Kind.set then return .set (setOrder ((← mappingEntries id).map Prod.fst))
  else if tag = Kind.orderedMap then return .pairs (← pairEntries .orderedMap id)
  else if tag = Kind.pairs then return .pairs (← pairEntries .pairs id)
  else return .mapping (← mappingEntries id)

/-- Builds the collections that have been met, and those that are met on the way. -/
def buildWaiting : (fuel : Nat) → Build Unit
  | 0 => return
  | fuel + 1 => do
    let builder ← get
    match builder.waiting with
    | [] => return
    | id :: waiting => do
      set { builder with waiting }
      let built ← collection id
      modify fun builder => { builder with collections := (id, built) :: builder.collections }
      buildWaiting fuel

/-- The value of a node with its collections. -/
def data (root : NodeId) : Build Data := do
  let root ← value root
  buildWaiting (← depth)
  return { root, collections := (← get).collections }

end Build

namespace Data

/-- The value of a document; an empty document has the absent value. -/
def ofDocument (document : Document) : Except Fault Data :=
  match document.root with
  | none => .ok { root := .null, collections := [] }
  | some root => (Build.data root).run' { nodes := document.nodes }

def ofText (text : Text) : Except Fault Data := do
  ofDocument (← Document.ofText text)

end Data

end ScriptSite.Yaml
