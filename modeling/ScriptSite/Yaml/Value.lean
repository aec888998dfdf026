import ScriptSite.Number.Read
import ScriptSite.Number.Shortest
import ScriptSite.Text.Utf8
import ScriptSite.Time.Calendar
import ScriptSite.Yaml.Node

/-!
# Values

What a document stands for. Sequences, mappings and sets are told by the numbers of their nodes,
because they can stand at several places and even inside themselves; what they hold is kept beside
them.
-/

namespace ScriptSite.Yaml

/-- A value, or the number of the node of a collection. -/
inductive Value
  | null
  | truth (holds : Bool)
  | integer (number : Int)
  | double (number : Double)
  | text (chars : Text)
  | binary (bytes : Bytes)
  | date (date : Date)
  | moment (moment : Moment)
  | collection (id : NodeId)
  deriving DecidableEq, Repr

/-- What a collection holds. -/
inductive Collection
  | sequence (items : List Value)
  | pairs (entries : List (Value × Value))
  | mapping (entries : List (Value × Value))
  | set (items : List Value)
  deriving DecidableEq, Repr

/-- The value of a document with its collections. -/
structure Data where
  root : Value
  collections : List (NodeId × Collection)
  deriving DecidableEq, Repr

namespace Value

/-- The number that a value is, as a number of double precision or an integer; truth values count as
one and zero. -/
def number? : Value → Option (Int ⊕ Double)
  | .truth holds => some (.inl (if holds then 1 else 0))
  | .integer number => some (.inl number)
  | .double number =>
    match number.integer? with
    | some whole => some (.inl whole)
    | none => some (.inr number)
  | _ => none

/-- Whether two values are the same key of a mapping. Numbers are compared by their size, and times
by the instant. -/
def sameKey (left right : Value) : Bool :=
  match left, right with
  | .moment l, .moment r => l.same r
  | left, right =>
    match left.number?, right.number? with
    | some l, some r => l == r
    | none, none => left == right
    | _, _ => false

/-- The entries of a mapping with a value put under a key. A key that is there keeps its form and
place. -/
def putEntry (key value : Value) : List (Value × Value) → List (Value × Value)
  | [] => [(key, value)]
  | (other, old) :: rest =>
    if other.sameKey key then (other, value) :: rest else (other, old) :: putEntry key value rest

end Value

namespace Collection

/-- Whether a collection holds nothing. -/
def isEmpty : Collection → Bool
  | .sequence items | .set items => items.isEmpty
  | .pairs entries | .mapping entries => entries.isEmpty

end Collection

namespace Data

def collection? (data : Data) (id : NodeId) : Option Collection :=
  data.collections.lookup id

/-- Whether a value counts as nothing: the absent value, what is false, zero, and what is empty. -/
def isNothing (data : Data) : Value → Bool
  | .null => true
  | .truth holds => !holds
  | .integer number => number = 0
  | .double number => number.isZero
  | .text chars => chars.isEmpty
  | .binary bytes => bytes.isEmpty
  | .date _ => false
  | .moment _ => false
  | .collection id => (data.collection? id).all Collection.isEmpty

/-- Texts between brackets, with commas. -/
def listed (opening : Text) (items : List Text) (closing : Text) : Text :=
  opening ++ Text.joinWith [',', ' '] items ++ closing

/-- What stands for a collection inside of itself. -/
def repeated : Collection → Text
  | .sequence _ | .pairs _ => "[...]".toList
  | .mapping _ | .set _ => ['{'] ++ "...".toList ++ ['}']

/-- An integer with its decimal digits, unless it has too many of them. -/
def shownInteger (number : Int) : Option Text :=
  if Number.mostDigits < (Text.ofNat number.natAbs).length then none else some (Text.ofInt number)

/-- A pair, given how its values are shown. -/
def shownPair (shown : Value → Option Text) (entry : Value × Value) : Option Text := do
  return listed ['('] [← shown entry.1, ← shown entry.2] [')']

/-- An entry of a mapping, given how its values are shown. -/
def shownEntry (shown : Value → Option Text) (entry : Value × Value) : Option Text := do
  return (← shown entry.1) ++ ':' :: ' ' :: (← shown entry.2)

/-- A collection, given how its values are shown. -/
def shownCollection (shown : Value → Option Text) : Collection → Option Text
  | .sequence items => (items.mapM shown).map (listed ['['] · [']'])
  | .pairs entries => (entries.mapM (shownPair shown)).map (listed ['['] · [']'])
  | .mapping entries => (entries.mapM (shownEntry shown)).map (listed ['{'] · ['}'])
  | .set [] => some "set()".toList
  | .set items => (items.mapM shown).map (listed ['{'] · ['}'])

/-- A value as it is shown inside of others, in the collections `around`, unless there is an integer
in it with too many digits. A collection inside of itself is not shown again, so that at most
`depth` of them are inside each other. -/
def shown (data : Data) : (depth : Nat) → (around : List NodeId) → Value → Option Text
  | depth, around, value =>
    match value with
    | .null => some "None".toList
    | .truth holds => some (if holds then "True".toList else "False".toList)
    | .integer number => shownInteger number
    | .double number => some number.toText
    | .text chars => some (Text.quoted chars)
    | .binary bytes => some (Text.quotedBytes bytes)
    | .date date => some date.shown
    | .moment moment => some moment.shown
    | .collection id =>
      match depth, data.collection? id with
      | _, none => some []
      | 0, some collection => some (repeated collection)
      | depth + 1, some collection =>
        if around.contains id then some (repeated collection)
        else shownCollection (shown data depth (id :: around)) collection

/-- A value as a text, unless there is an integer in it with too many digits. -/
def textOf (data : Data) : Value → Option Text
  | .text chars => some chars
  | .date date => some date.toText
  | .moment moment => some moment.toText
  | value => data.shown (data.collections.length + 1) [] value

def pairText (data : Data) (entry : Value × Value) : Option Text :=
  shownPair (data.shown (data.collections.length + 1) []) entry

end Data

end ScriptSite.Yaml
