import ScriptSite.Yaml.Value

/-!
# The order of sets

A set shows its members in the order of the table that holds them. The place of a member in it comes
from its hash: for a number the remainder by a prime, so that numbers which are equal have one hash.
Where a place is taken, the next ones are tried, and then others. The hashes of other values differ
from one run of a program to the next, and so does the order of sets with such members; here they
stay in the order in which they are written.
-/

namespace ScriptSite

/-- The prime that the hash of a number is a remainder by. Doubling a hash sixty-one times changes
nothing. -/
def hashPrime : Nat :=
  Nat.pow 2 61 - 1

/-- The hash of a number with this remainder. There is no hash of minus one. -/
def signedHash (negative : Bool) (remainder : Nat) : Int :=
  let hash : Int := if negative then -remainder else remainder
  if hash = -1 then -2 else hash

def Double.hash? : Double → Option Int
  | .finite negative mantissa exponent =>
    some (signedHash negative (mantissa * Nat.pow 2 (exponent % 61).toNat % hashPrime))
  | .infinite negative => some (if negative then -314159 else 314159)
  | .nan => none

namespace Yaml

/-- The hash of a value, if it is the same in every run. -/
def Value.hash? : Value → Option Int
  | .truth holds => some (if holds then 1 else 0)
  | .integer number => some (signedHash (number < 0) (number.natAbs % hashPrime))
  | .double number => number.hash?
  | .text [] => some 0
  | .binary [] => some 0
  | _ => none

namespace SetTable

/-- The number of places of a table for so many members: a power of two. -/
def size (members : Nat) : Nat :=
  if members < 5 then 8 else Nat.pow 2 ((2 * members).log2 + 1)

/-- The first free place of a table for a hash, from a place on. Up to ten places in a row are
tried, and then the search goes on where the bits of the hash lead that have not been used yet. -/
def freePlace (size : Nat) (taken : List Nat) : (steps : Nat) → (place hash : Nat) → Nat
  | 0, place, _ => place
  | steps + 1, place, hash =>
    let row := if place + 9 < size then 10 else 1
    match (List.range' place row).find? (!taken.contains ·) with
    | some free => free
    | none => freePlace size taken steps ((place * 5 + 1 + hash / 32) % size) (hash / 32)

/-- Puts members with their hashes into a table, one after the other. -/
def fill (size : Nat) : (table : List (Nat × Value)) → List (Value × Int) → List (Nat × Value)
  | table, [] => table
  | table, (member, hash) :: rest =>
    let bits := (hash % (Nat.pow 2 64 : Nat)).toNat
    let place := freePlace size (table.map Prod.fst) (size + 13) (bits % size) bits
    fill size ((place, member) :: table) rest

end SetTable

/-- The members of a set in the order in which they are shown. -/
def setOrder (members : List Value) : List Value :=
  match members.mapM fun member => member.hash?.map fun hash => (member, hash) with
  | none => members
  | some hashed =>
    ((SetTable.fill (SetTable.size members.length) [] hashed).mergeSort (·.1 ≤ ·.1)).map Prod.snd

end Yaml

end ScriptSite
