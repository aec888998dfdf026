/-!
# Binary fractions

The numbers of double precision: a mantissa below 2^53 times a power of two that is at least
2^-1074. Every fraction of natural numbers is rounded to the nearest of them, and of two that are
equally near to the one whose mantissa is even. What is too large becomes infinite.
-/

namespace ScriptSite

/-- A number of double precision. The mantissa has 53 bits unless the exponent is the least. -/
inductive Double
  | finite (negative : Bool) (mantissa : Nat) (exponent : Int)
  | infinite (negative : Bool)
  | nan
  deriving DecidableEq, Repr

namespace Double

def leastExponent : Int :=
  -1074

def greatestExponent : Int :=
  971

/-- A power of two as a fraction. -/
def powerOfTwo (exponent : Int) : Nat × Nat :=
  if exponent < 0 then (1, Nat.pow 2 exponent.natAbs) else (Nat.pow 2 exponent.natAbs, 1)

/-- The integer nearest to a fraction, the even one of two. -/
def nearest (numerator denominator : Nat) : Nat :=
  let whole := numerator / denominator
  let twice := 2 * (numerator % denominator)
  if twice < denominator then whole
  else if denominator < twice then whole + 1
  else whole + whole % 2

/-- A fraction divided by a power of two, rounded. -/
def mantissaAt (numerator denominator : Nat) (exponent : Int) : Nat :=
  let (up, down) := powerOfTwo exponent
  nearest (numerator * down) (denominator * up)

/-- The exponent at which the mantissa of a fraction has 53 bits or one bit less. -/
def exponentFor (numerator denominator : Nat) : Int :=
  max leastExponent ((numerator.log2 : Int) - denominator.log2 - 52)

/-- The number with a mantissa of at most 54 bits. -/
def ofMantissa (negative : Bool) (mantissa : Nat) (exponent : Int) : Double :=
  let (mantissa, exponent) :=
    if mantissa < Nat.pow 2 53 then (mantissa, exponent) else (mantissa / 2, exponent + 1)
  if greatestExponent < exponent then .infinite negative else .finite negative mantissa exponent

def ofFraction (negative : Bool) (numerator denominator : Nat) : Double :=
  let exponent := exponentFor numerator denominator
  let exponent :=
    if mantissaAt numerator denominator exponent < Nat.pow 2 52 ∧ leastExponent < exponent then
      exponent - 1
    else exponent
  ofMantissa negative (mantissaAt numerator denominator exponent) exponent

/-- The number nearest to a decimal: a natural number times a power of ten. Beyond the four
hundredth place on either side there is no number but zero and the infinite ones. -/
def ofDecimal (negative : Bool) (digits : Nat) (exponent : Int) : Double :=
  let places := (Nat.toDigits 10 digits).length
  if digits = 0 ∨ exponent + places < -400 then .finite negative 0 leastExponent
  else if 400 < exponent then .infinite negative
  else if exponent < 0 then ofFraction negative digits (Nat.pow 10 exponent.natAbs)
  else ofFraction negative (digits * Nat.pow 10 exponent.natAbs) 1

/-- The number nearest to a natural number. -/
def ofNat (n : Nat) : Double :=
  ofDecimal false n 0

def isZero : Double → Bool
  | .finite _ mantissa _ => mantissa = 0
  | _ => false

/-- The number with the other sign. -/
def negate : Double → Double
  | .finite negative mantissa exponent => .finite (!negative) mantissa exponent
  | .infinite negative => .infinite (!negative)
  | .nan => .nan

/-- A finite number as a multiple of 2^-1074; zero for other numbers. -/
def scaled : Double → Int
  | .finite negative mantissa exponent =>
    let size : Int := (mantissa * Nat.pow 2 (exponent - leastExponent).toNat : Nat)
    if negative then -size else size
  | _ => 0

/-- The number nearest to a multiple of 2^-1074. -/
def ofScaled (scaled : Int) : Double :=
  ofFraction (scaled < 0) scaled.natAbs (Nat.pow 2 1074)

/-- The number nearest to the product of a number and a positive finite number. -/
def times (factor : Double) : Double → Double
  | .infinite negative => .infinite negative
  | .nan => .nan
  | number =>
    let product := number.scaled * factor.scaled
    ofFraction (product < 0) product.natAbs (Nat.pow 2 2148)

/-- The number nearest to the sum of two numbers. -/
def plus : Double → Double → Double
  | .nan, _ => .nan
  | _, .nan => .nan
  | .infinite left, .infinite right => if left = right then .infinite left else .nan
  | .infinite negative, _ => .infinite negative
  | _, .infinite negative => .infinite negative
  | left, right => ofScaled (left.scaled + right.scaled)

/-- The integer that a finite number is, if it is one. -/
def integer? : Double → Option Int
  | .finite negative mantissa exponent =>
    let (up, down) := powerOfTwo exponent
    if mantissa * up % down = 0 then
      let size : Int := (mantissa * up / down : Nat)
      some (if negative then -size else size)
    else none
  | _ => none

end Double

end ScriptSite
