import TypedRecord.Text.CodePoint

/-!
# TypedRecord.Json.Fault

Why a text is not read as a JSON document, and where it is malformed.
-/

namespace TypedRecord.Json

/-- What was wrong. -/
inductive Reason
  | expectedValue
  | expectedName
  | expectedColon
  | expectedComma
  | extraData
  | unterminatedString
  | controlCharacter
  | badEscape
  | badUnicodeEscape
  | byteOrderMark
  deriving DecidableEq, Inhabited, Repr

/-- The wording of a reason. -/
def Reason.message : Reason → String
  | expectedValue => "Expecting value"
  | expectedName => "Expecting property name enclosed in double quotes"
  | expectedColon => "Expecting ':' delimiter"
  | expectedComma => "Expecting ',' delimiter"
  | extraData => "Extra data"
  | unterminatedString => "Unterminated string starting at"
  | controlCharacter => "Invalid control character at"
  | badEscape => "Invalid \\escape"
  | badUnicodeEscape => "Invalid \\uXXXX escape"
  | byteOrderMark => "Unexpected UTF-8 BOM (decode using utf-8-sig)"

/-- A fault at an offset, counted in code points from zero, with its line and column, counted from
one. -/
structure Fault where
  reason : Reason
  line : Nat
  column : Nat
  offset : Nat
  deriving DecidableEq, Inhabited, Repr

/-- A fault behind some characters. -/
def Fault.at (before : List Char) (reason : Reason) : Fault :=
  let ns := Text.points before
  { reason
    line := before.count '\n' + 1
    column := (ns.reverse.takeWhile (· != '\n'.toNat)).length + 1
    offset := ns.length }

/-- The wording of a fault. -/
def Fault.message (f : Fault) : String :=
  s!"{f.reason.message}: line {f.line} column {f.column} (char {f.offset})"

/-- Why a text is not read: it is malformed, or something in it goes beyond what is read. How a
malformed place is told is `φ`. -/
inductive Obstacle (φ : Type)
  | malformed (place : φ)
  | tooManyDigits (digits : Nat)
  | tooDeep
  deriving DecidableEq, Inhabited, Repr

/-- An obstacle with the malformed place told differently. -/
def Obstacle.map {φ ψ : Type} (f : φ → ψ) : Obstacle φ → Obstacle ψ
  | malformed place => malformed (f place)
  | tooManyDigits digits => tooManyDigits digits
  | tooDeep => tooDeep

end TypedRecord.Json
