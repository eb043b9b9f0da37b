import TypedRecord.Numeric.Double

/-!
# TypedRecord.Numeric.Reading

Reading numbers from text.

* `readNat?` reads digits in a base.
* `Double.ofText?` reads a decimal with an optional sign, fraction and exponent, or one of the words
  for an infinity and for what is not a number, in any case.
-/

namespace TypedRecord

/-- The value of a digit in a base up to sixteen. -/
def digitValue? (base : Nat) (c : Char) : Option Nat :=
  let v :=
    if c.isDigit then c.toNat - '0'.toNat
    else if 'a' ≤ c ∧ c ≤ 'f' then c.toNat - 'a'.toNat + 10
    else if 'A' ≤ c ∧ c ≤ 'F' then c.toNat - 'A'.toNat + 10
    else 16
  if v < base then some v else none

/-- Digits in a base, continuing the number `acc`. -/
def readDigits? (base : Nat) (acc : Nat) : List Char → Option Nat
  | [] => some acc
  | c :: rest => do readDigits? base (acc * base + (← digitValue? base c)) rest

/-- The number that digits in a base spell; there must be at least one. -/
def readNat? (base : Nat) (digits : List Char) : Option Nat :=
  if digits = [] then none else readDigits? base 0 digits

/-- The sign at the front of a number: whether it is negative, and the rest. -/
def readSign (s : List Char) : Bool × List Char :=
  match s with
  | '-' :: rest => (true, rest)
  | '+' :: rest => (false, rest)
  | s => (false, s)

/-- How many decimal digits a whole number may have to be read or written. -/
def digitLimit : Nat := 4300

/-- Whether a whole number has no more digits than are written. -/
def isWritableInt (i : Int) : Bool := i.natAbs < Nat.pow 10 digitLimit

/-- An integer under a sign. -/
def signedInt (negative : Bool) (n : Nat) : Int := if negative then -Int.ofNat n else Int.ofNat n

/-- The exponent at the end of a number: nothing at all, or a letter, a sign and digits. -/
def readExponent? (s : List Char) : Option Int :=
  match s with
  | [] => some 0
  | e :: rest =>
    if e = 'e' ∨ e = 'E' then
      let (negative, ds) := readSign rest
      (readNat? 10 ds).map (signedInt negative)
    else none

/-- Reads a decimal without a sign. -/
def readDecimal? (negative : Bool) (s : List Char) : Option Double :=
  let whole := s.takeWhile Char.isDigit
  let rest := s.dropWhile Char.isDigit
  let (fraction, tail) := match rest with
    | '.' :: r => (r.takeWhile Char.isDigit, r.dropWhile Char.isDigit)
    | r => ([], r)
  if whole = [] ∧ fraction = [] then none
  else do
    let exponent ← readExponent? tail
    let digits ← readDigits? 10 0 (whole ++ fraction)
    some (Double.ofDecimal negative digits (exponent - Int.ofNat fraction.length))

/-- Reads a number. -/
def Double.ofText? (s : String) : Option Double :=
  let (negative, body) := readSign s.toList
  let word := String.ofList (body.map Char.toLower)
  if word = "inf" ∨ word = "infinity" then some (.infinite negative)
  else if word = "nan" then some (.nan 0)
  else readDecimal? negative body

end TypedRecord
