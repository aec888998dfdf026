import ScriptSite.Number.Double
import ScriptSite.Text.Basic

/-!
# The shortest decimal

A number of double precision is written with the fewest digits that are still nearest to it among
all the numbers of double precision, and of the decimals with so few digits with the nearest.
-/

namespace ScriptSite

namespace Double

/-- The decimals that are rounded to a number: those between two bounds, which belong to them or
not. The number and its bounds are counted in one unit. -/
structure Interval where
  value : Nat
  low : Nat
  high : Nat
  closed : Bool
  denominator : Nat
  deriving Repr

/-- The interval of a number with a mantissa other than zero. -/
def interval (mantissa : Nat) (exponent : Int) : Interval :=
  let (up, down) := powerOfTwo exponent
  let narrow := mantissa = Nat.pow 2 52 ∧ leastExponent < exponent
  { value := 4 * mantissa * up, low := (4 * mantissa - if narrow then 1 else 2) * up,
    high := (4 * mantissa + 2) * up, closed := mantissa % 2 = 0, denominator := 4 * down }

/-- Whether `digits` times ten to the power of `exponent` lies in an interval. -/
def Interval.holds (interval : Interval) (digits : Nat) (exponent : Int) : Bool :=
  let up := if exponent < 0 then 1 else Nat.pow 10 exponent.natAbs
  let down := if exponent < 0 then Nat.pow 10 exponent.natAbs else 1
  let point := digits * up * interval.denominator
  if interval.closed then interval.low * down ≤ point && point ≤ interval.high * down
  else interval.low * down < point && point < interval.high * down

/-- The two multiples of ten to the power of `exponent` around the value, those that lie in the
interval, the nearest first. -/
def Interval.candidates (interval : Interval) (exponent : Int) : List Nat :=
  let up := if exponent < 0 then 1 else Nat.pow 10 exponent.natAbs
  let down := if exponent < 0 then Nat.pow 10 exponent.natAbs else 1
  let numerator := interval.value * down
  let unit := up * interval.denominator
  let below := numerator / unit
  let twice := 2 * (numerator % unit)
  let belowFirst := twice < unit || (twice == unit && below % 2 == 0)
  (if belowFirst then [below, below + 1] else [below + 1, below]).filter (interval.holds · exponent)

/-- The greatest exponent of ten, from `exponent` down, at which a decimal lies in an interval; and
that decimal. `steps` bounds the search. -/
def Interval.shortestFrom (interval : Interval) : (steps : Nat) → (exponent : Int) → Nat × Int
  | 0, exponent => (0, exponent)
  | steps + 1, exponent =>
    match interval.candidates exponent with
    | digits :: _ =>
      if digits = 0 then shortestFrom interval steps (exponent - 1) else (digits, exponent)
    | [] => shortestFrom interval steps (exponent - 1)

/-- The shortest decimal for a number with a mantissa other than zero: its digits, and the power of
ten that their number is multiplied by. The search starts above the number, since 10^n has n + 1
digits and 2^q fewer than q + 1. -/
def shortest (mantissa : Nat) (exponent : Int) : Nat × Int :=
  (interval mantissa exponent).shortestFrom 700
    ((((mantissa.log2 : Int) + exponent) * 30103) / 100000 + 1)

/-- Digits without the zeros they end with. -/
def withoutZeros (digits : Text) : Text :=
  match Text.dropWhileRight (· == '0') digits with
  | [] => ['0']
  | kept => kept

/-- The power of ten above which a number is written with an exponent. -/
def positionalUpTo : Int :=
  16

/-- The power of ten up to which a small number is written with an exponent. -/
def exponentUpTo : Int :=
  -4

/-- Digits with a point, so that the number is below ten to the power of `point` and not ten times
smaller. There is always a digit on either side of the point. -/
def positional (digits : Text) (point : Int) : Text :=
  if point ≤ 0 then '0' :: '.' :: List.replicate point.natAbs '0' ++ digits
  else
    let whole := digits.take point.toNat
    let fraction := digits.drop point.toNat
    whole ++ List.replicate (point.toNat - whole.length) '0' ++
      '.' :: (if fraction.isEmpty then ['0'] else fraction)

/-- Digits with an exponent, which has a sign and at least two digits. -/
def scientific (digits : Text) (exponent : Int) : Text :=
  let size := Text.ofNat exponent.natAbs
  let fraction := digits.drop 1
  digits.take 1 ++ (if fraction.isEmpty then [] else '.' :: fraction) ++
    'e' :: (if exponent < 0 then '-' else '+') :: List.replicate (2 - size.length) '0' ++ size

def toText : Double → Text
  | .nan => "nan".toList
  | .infinite negative => if negative then "-inf".toList else "inf".toList
  | .finite negative mantissa exponent =>
    let sign := if negative then ['-'] else []
    if mantissa = 0 then sign ++ "0.0".toList
    else
      let (number, power) := shortest mantissa exponent
      let all := Text.ofNat number
      let digits := withoutZeros all
      let point := power + all.length
      sign ++
        (if exponentUpTo < point ∧ point ≤ positionalUpTo then positional digits point
        else scientific digits (point - 1))

end Double

end ScriptSite
