import TypedRecord.Numeric.Double

/-!
# TypedRecord.Numeric.Shortest

The shortest decimal that reads back as a given number.

A finite number stands for every real that rounds to it: the reals within half a step on either
side, the ends included exactly when the mantissa is even. `Shortest.digits` looks for the coarsest
power of ten that has a multiple in that interval and, of its multiples there, takes the one nearest
to the number. `Double.text` lays the digits out: positionally while the decimal exponent lies in
`-4 … 15`, otherwise with an exponent of at least two digits.
-/

namespace TypedRecord

namespace Shortest

/-- The interval of reals that round to `mantissa · 2 ^ exponent`, over a common denominator:
`low`, `value` and `high` are numerators, and `closed` says whether the ends belong to it. -/
structure Interval where
  low : Nat
  value : Nat
  high : Nat
  den : Nat
  closed : Bool

/-- The interval of a positive number. Below a power of two the step halves. -/
def Interval.of (mantissa : Nat) (exponent : Int) : Interval :=
  let narrow := mantissa = 1 <<< 52 ∧ Double.minExponent < exponent
  let value := 4 * mantissa
  let low := if narrow then value - 1 else value - 2
  let high := value + 2
  let shift := exponent - 2
  let up := if 0 ≤ shift then 1 <<< shift.toNat else 1
  let den := if 0 ≤ shift then 1 else 1 <<< (-shift).toNat
  ⟨low * up, value * up, high * up, den, mantissa % 2 = 0⟩

/-- Whether `point / unit` lies in the interval. -/
def Interval.contains (i : Interval) (point unit : Nat) : Bool :=
  let at' := point * i.den
  if i.closed then i.low * unit ≤ at' && at' ≤ i.high * unit
  else i.low * unit < at' && at' < i.high * unit

/-- The multiple of `10 ^ power` nearest to the number among its two neighbours on that grid, if one
of them lies in the interval. An exact tie goes to the even digit. -/
def Interval.onGrid (i : Interval) (power : Int) : Option Nat :=
  let up := if 0 ≤ power then Nat.pow 10 power.toNat else 1
  let unit := if 0 ≤ power then 1 else Nat.pow 10 (-power).toNat
  let below := i.value * unit / (i.den * up)
  let above := below + 1
  let rest := i.value * unit - below * up * i.den
  let gap := above * up * i.den - i.value * unit
  let belowIn := i.contains (below * up) unit && below != 0
  let aboveIn := i.contains (above * up) unit
  match belowIn, aboveIn with
  | true, true =>
    if rest < gap then some below else if gap < rest then some above
    else some (if below % 2 = 0 then below else above)
  | true, false => some below
  | false, true => some above
  | false, false => none

/-- Tries the grids from coarse to fine, `steps` of them, starting at `10 ^ power`. -/
def Interval.search (i : Interval) : Nat → Int → Nat × Int
  | 0, power => (0, power)
  | steps + 1, power =>
    match i.onGrid power with
    | some n => (n, power)
    | none => i.search steps (power - 1)

/-- Drops the trailing zeros of a digit string, each one raising the power of ten. -/
def dropZeros (digits : List Char) (power : Int) : List Char × Int :=
  let zeros := (digits.reverse.takeWhile (· == '0')).length
  (digits.take (digits.length - zeros), power + Int.ofNat zeros)

/-- The digits `d₁ d₂ … dₙ` and the power `p` with `d₁ … dₙ · 10 ^ p` the shortest decimal that reads
back as the positive number `mantissa · 2 ^ exponent`. The search starts one power of ten above the
number and ends within 17 significant digits. -/
def digits (mantissa : Nat) (exponent : Int) : List Char × Int :=
  let interval := Interval.of mantissa exponent
  let wholeDigits := (Nat.toDigits 10 (interval.high / interval.den)).length
  let fractionDigits := (Nat.toDigits 10 (interval.den / max 1 interval.high)).length
  let start : Int := Int.ofNat wholeDigits - (if interval.den ≤ interval.high then 0
    else Int.ofNat fractionDigits - 1)
  let (n, power) := interval.search 21 start
  dropZeros (Nat.toDigits 10 n) power

end Shortest

/-- How a decimal is laid out. `lowest` and `beyond` bound the decimal exponents written
positionally: `lowest ≤ e < beyond`. -/
structure DecimalLayout where
  lowest : Int
  beyond : Int
  exponentWidth : Nat
  notANumber : String
  infinity : String

/-- Numbers are written positionally from `0.0001` up to, and not including, `10 ^ 16`; an exponent
has a sign and at least two digits. -/
def DecimalLayout.standard : DecimalLayout := ⟨-4, 16, 2, "nan", "inf"⟩

/-- A string of `n` zeros. -/
private def zeros (n : Nat) : String := String.ofList (List.replicate n '0')

/-- Writes the digits `ds · 10 ^ power`. A positional number always keeps a digit after its point;
one with an exponent has a point only when it has more than one digit. -/
def DecimalLayout.write (layout : DecimalLayout) (ds : List Char) (power : Int) : String :=
  let point : Int := Int.ofNat ds.length + power
  let exponent := point - 1
  if layout.lowest ≤ exponent ∧ exponent < layout.beyond then
    if point ≤ 0 then "0." ++ zeros (-point).toNat ++ String.ofList ds
    else if ds.length ≤ point.toNat then
      String.ofList ds ++ zeros (point.toNat - ds.length) ++ ".0"
    else String.ofList (ds.take point.toNat) ++ "." ++ String.ofList (ds.drop point.toNat)
  else
    let size := toString exponent.natAbs
    let mantissa := match ds with
      | [] => "0"
      | [d] => String.singleton d
      | d :: rest => String.singleton d ++ "." ++ String.ofList rest
    mantissa ++ "e" ++ (if exponent < 0 then "-" else "+") ++
      zeros (layout.exponentWidth - size.length) ++ size

namespace Double

/-- The number in a given layout, by its shortest digits. -/
def textWith (layout : DecimalLayout) : Double → String
  | nan _ => layout.notANumber
  | infinite negative => (if negative then "-" else "") ++ layout.infinity
  | finite negative mantissa exponent =>
    let sign := if negative then "-" else ""
    if mantissa = 0 then sign ++ "0.0"
    else
      let (ds, power) := Shortest.digits mantissa exponent
      sign ++ layout.write ds power

/-- The number as it is shown everywhere in this library. -/
def text (x : Double) : String := x.textWith .standard

end Double

end TypedRecord
