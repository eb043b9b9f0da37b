/-!
# TypedRecord.Numeric.Double

Binary floating-point numbers of 53 significant bits, as exact data.

A `Double` is either not a number, an infinity, or `± mantissa · 2 ^ exponent`. What is not a number
carries a payload, which tells one from another and has no other meaning. Every operation is
exact integer arithmetic followed by one rounding, so nothing here depends on the machine's own
floating point and every result can be computed inside a proof.

* `Double.ofRatio` rounds a non-negative fraction to the nearest number, ties to the even mantissa.
* `Double.ofDecimal` reads `digits · 10 ^ exponent`.
* `Double.toInt?` recovers the integer that a whole number stands for.
-/

namespace TypedRecord

/-- A floating-point number. Finite numbers built by `Double.ofRatio` are normalised: the mantissa
is below `2 ^ 53`, the exponent is at least `-1074`, and the mantissa is at least `2 ^ 52` unless the
exponent is the least one. -/
inductive Double
  | nan (payload : Nat)
  | infinite (negative : Bool)
  | finite (negative : Bool) (mantissa : Nat) (exponent : Int)
  deriving DecidableEq, Inhabited, Repr

namespace Double

/-- The exponent of the smallest positive number. -/
def minExponent : Int := -1074

/-- The exponent of the largest finite numbers. -/
def maxExponent : Int := 971

/-- Positive zero. -/
def zero : Double := .finite false 0 minExponent

/-- `num / den` rounded to the nearest natural number, a tie going to the even one. -/
def roundHalfEven (num den : Nat) : Nat :=
  let quotient := num / den
  let twice := 2 * (num % den)
  if twice < den then quotient
  else if den < twice then quotient + 1
  else quotient + quotient % 2

/-- The fraction `num / den · 2 ^ (-exponent)` as a numerator and a denominator. -/
def scale (num den : Nat) (exponent : Int) : Nat × Nat :=
  if 0 ≤ exponent then (num, den <<< exponent.toNat) else (num <<< (-exponent).toNat, den)

/-- The exponent at which `num / den` has its full 53 bits, but not below `minExponent`. -/
def exponentFor (num den : Nat) : Int :=
  let guess : Int := Int.ofNat num.log2 - Int.ofNat den.log2 - 52
  let (scaled, unit) := scale num den guess
  max minExponent (if scaled < unit <<< 52 then guess - 1 else guess)

/-- The number nearest to `num / den`, with the given sign. -/
def ofRatio (negative : Bool) (num den : Nat) : Double :=
  if num = 0 then .finite negative 0 minExponent
  else
    let exponent := exponentFor num den
    let (scaled, unit) := scale num den exponent
    let mantissa := roundHalfEven scaled unit
    let (mantissa, exponent) :=
      if mantissa = 1 <<< 53 then (1 <<< 52, exponent + 1) else (mantissa, exponent)
    if maxExponent < exponent then .infinite negative else .finite negative mantissa exponent

/-- The number nearest to `digits · 10 ^ exponent`. Decimals far outside the range are decided
without building the power of ten. -/
def ofDecimal (negative : Bool) (digits : Nat) (exponent : Int) : Double :=
  let magnitude : Int := exponent + Int.ofNat (Nat.toDigits 10 digits).length
  if digits = 0 then .finite negative 0 minExponent
  else if 400 < magnitude then .infinite negative
  else if magnitude < -400 then .finite negative 0 minExponent
  else if 0 ≤ exponent then ofRatio negative (digits * Nat.pow 10 exponent.toNat) 1
  else ofRatio negative digits (Nat.pow 10 (-exponent).toNat)

/-- The number nearest to an integer. -/
def ofInt (i : Int) : Double := ofRatio (i < 0) i.natAbs 1

/-- The integer a whole number stands for. -/
def toInt? : Double → Option Int
  | nan _ | infinite _ => none
  | finite negative mantissa exponent =>
    let whole : Option Nat :=
      if 0 ≤ exponent then some (mantissa <<< exponent.toNat)
      else
        let unit := 1 <<< (-exponent).toNat
        if mantissa % unit = 0 then some (mantissa / unit) else none
    whole.map fun n => if negative then -Int.ofNat n else Int.ofNat n

/-- Zero of either sign. -/
def isZero : Double → Bool
  | finite _ mantissa _ => mantissa == 0
  | _ => false

/-- Whether the first of two numbers is less; what is not a number is less than nothing. -/
def less : Double → Double → Bool
  | nan _, _ | _, nan _ => false
  | infinite a, infinite b => a && !b
  | infinite a, finite _ _ _ => a
  | finite _ _ _, infinite b => !b
  | finite na ma ea, finite nb mb eb =>
    let low := min ea eb
    let left := Int.ofNat (ma <<< (ea - low).toNat)
    let right := Int.ofNat (mb <<< (eb - low).toNat)
    (if na then -left else left) < (if nb then -right else right)

/-- An integer as an exact number, however large. -/
def exact (i : Int) : Double := .finite (i < 0) i.natAbs 0

/-- A number is the same as another for comparison when both are the same number; the two zeros are
one, and what is not a number equals nothing. -/
def same (a b : Double) : Bool :=
  match a, b with
  | nan _, _ | _, nan _ => false
  | a, b => a == b || (a.isZero && b.isZero)

/-- A finite number as a signed integer times a power of two. -/
private def signed (negative : Bool) (mantissa : Nat) : Int :=
  if negative then -Int.ofNat mantissa else Int.ofNat mantissa

/-- Rounds `value · 2 ^ exponent`; an exact zero takes the sign `zeroNegative`. -/
private def ofScaled (zeroNegative : Bool) (value : Int) (exponent : Int) : Double :=
  let negative := if value = 0 then zeroNegative else value < 0
  if 0 ≤ exponent then ofRatio negative (value.natAbs <<< exponent.toNat) 1
  else ofRatio negative value.natAbs (1 <<< (-exponent).toNat)

/-- Sum, rounded once. -/
def add : Double → Double → Double
  | nan p, _ | _, nan p => nan p
  | infinite a, infinite b => if a = b then infinite a else nan 0
  | infinite a, _ | _, infinite a => infinite a
  | finite na ma ea, finite nb mb eb =>
    let low := min ea eb
    let left := signed na (ma <<< (ea - low).toNat)
    let right := signed nb (mb <<< (eb - low).toNat)
    ofScaled (na && nb) (left + right) low

/-- Product, rounded once. -/
def mul : Double → Double → Double
  | nan p, _ | _, nan p => nan p
  | infinite a, infinite b => infinite (a != b)
  | infinite a, finite b m _ | finite b m _, infinite a =>
    if m = 0 then nan 0 else infinite (a != b)
  | finite na ma ea, finite nb mb eb =>
    ofScaled (na != nb) (signed na ma * signed nb mb) (ea + eb)

/-- The whole part of a number, without its sign. What is infinite or not a number has none. -/
def wholePart : Double → Nat
  | nan _ | infinite _ => 0
  | finite _ mantissa exponent =>
    if 0 ≤ exponent then mantissa <<< exponent.toNat else mantissa >>> (-exponent).toNat

/-- The number with its sign reversed. -/
def negate : Double → Double
  | nan p => nan p
  | infinite negative => infinite !negative
  | finite negative mantissa exponent => finite (!negative) mantissa exponent

end Double

end TypedRecord
