import TypedRecord.Json.Fault
import TypedRecord.Numeric.Reading
import TypedRecord.Text.CodePoint
import TypedRecord.Value

/-!
# TypedRecord.Json.Reader

Reading JSON documents.

The accepted language is JSON with three more numbers, `NaN`, `Infinity` and `-Infinity`. Whole
numbers are exact, and as long as digits are read at all; a number with a fraction or an exponent is a
floating-point number. Of a repeated name in an object the first place and the last value count.

A reader takes the characters that are left and answers what it read and what is left after it. A
fault is located by the number of characters left at it, from which `read` computes the offset in code points.
Escaped surrogates that do not pair up denote no character and are read as lone units.
-/

namespace TypedRecord.Json

/-- Why a reader stopped; a malformed place is told by the number of characters left at it. -/
abbrev Stop : Type := Obstacle (Reason × Nat)

/-- Stops a reader at some characters. -/
def stop {α : Type} (reason : Reason) (s : List Char) : Except Stop α :=
  .error (.malformed (reason, s.length))

/-- The blanks of JSON. -/
def isSpace (c : Char) : Bool := c == ' ' || c == '\t' || c == '\n' || c == '\r'

/-- Skips blanks. -/
def skip (s : List Char) : List Char := s.dropWhile isSpace

/-- The value of a hexadecimal digit. -/
def hexDigit? (c : Char) : Option Nat :=
  if c.isDigit then some (c.toNat - '0'.toNat)
  else if 'a' ≤ c ∧ c ≤ 'f' then some (c.toNat - 'a'.toNat + 10)
  else if 'A' ≤ c ∧ c ≤ 'F' then some (c.toNat - 'A'.toNat + 10)
  else none

/-- The number that four hexadecimal digits spell. -/
def hexQuad? (ds : List Char) : Option Nat :=
  match ds with
  | [a, b, c, d] => do
    some (((← hexDigit? a) * 16 + (← hexDigit? b)) * 256 + (← hexDigit? c) * 16 + (← hexDigit? d))
  | _ => none

/-- The character that a one-letter escape stands for. -/
def simpleEscape? (c : Char) : Option Char :=
  match c with
  | '"' => some '"'
  | '\\' => some '\\'
  | '/' => some '/'
  | 'b' => some '\x08'
  | 'f' => some '\x0c'
  | 'n' => some '\n'
  | 'r' => some '\r'
  | 't' => some '\t'
  | _ => none

/-- Reads the four digits of an escape, of which at least one more character has to follow. `from'`
is the text from the letter `u` on. -/
def readUnit (from' : List Char) : Except Stop (Nat × List Char) :=
  let digits := from'.drop 1
  if digits.length ≤ 4 then stop .badUnicodeEscape from'
  else
    match hexQuad? (digits.take 4) with
    | some n => .ok (n, digits.drop 4)
    | none => stop .badUnicodeEscape from'

/-- Reads the body of a string up to its closing quote. `opening` is the number of characters left at
the opening quote, and `acc` holds what was read so far, in reverse. -/
def readString (opening : Nat) : Nat → List Char → List Char → Except Stop (String × List Char)
  | 0, _, _ => .error (.malformed (.unterminatedString, opening))
  | _ + 1, _, [] => .error (.malformed (.unterminatedString, opening))
  | fuel + 1, acc, c :: rest =>
    if c = '"' then .ok (String.ofList acc.reverse, rest)
    else if c = '\\' then
      match rest with
      | [] => .error (.malformed (.unterminatedString, opening))
      | 'u' :: _ => do
        let (high, after) ← readUnit rest
        if 0xD800 ≤ high ∧ high < 0xDC00 then
          match after with
          | '\\' :: 'u' :: _ =>
            if (Text.points (after.take 14)).length ≤ 6 then readString opening fuel ((Text.spell high).reverse ++ acc) after
            else do
              let (low, later) ← readUnit (after.drop 1)
              if 0xDC00 ≤ low ∧ low < 0xE000 then
                let n := 0x10000 + (high - 0xD800) * 0x400 + (low - 0xDC00)
                readString opening fuel ((Text.spell n).reverse ++ acc) later
              else readString opening fuel ((Text.spell high).reverse ++ acc) after
          | _ => readString opening fuel ((Text.spell high).reverse ++ acc) after
        else readString opening fuel ((Text.spell high).reverse ++ acc) after
      | e :: after =>
        match simpleEscape? e with
        | some c => readString opening fuel (c :: acc) after
        | none => stop .badEscape (c :: rest)
    else if c.toNat < 0x20 then stop .controlCharacter (c :: rest)
    else readString opening fuel (c :: acc) rest

/-- The number that decimal digits spell. -/
def natOfDigits (ds : List Char) : Nat :=
  ds.foldl (fun n d => n * 10 + (d.toNat - '0'.toNat)) 0

/-- The digits at the front. -/
def digitsOf (s : List Char) : List Char × List Char :=
  (s.takeWhile Char.isDigit, s.dropWhile Char.isDigit)

/-- The exponent at the front, if a whole one is there. -/
def readExponent (s : List Char) : Option (Int × List Char) :=
  match s with
  | e :: rest =>
    if e = 'e' ∨ e = 'E' then
      let (negative, rest) := match rest with
        | '-' :: r => (true, r)
        | '+' :: r => (false, r)
        | r => (false, r)
      let (ds, after) := digitsOf rest
      if ds = [] then none
      else
        let n := Int.ofNat (natOfDigits ds)
        some (if negative then -n else n, after)
    else none
  | [] => none

/-- Reads a number. A point without a digit after it and an exponent without digits do not belong to
the number. The length of whole numbers is limited. -/
def readNumber (s : List Char) : Except Stop (Value × List Char) :=
  let (negative, body) := match s with
    | '-' :: r => (true, r)
    | r => (false, r)
  let (whole, rest) := match body with
    | '0' :: r => (['0'], r)
    | r => digitsOf r
  if whole = [] then stop .expectedValue s
  else
    let (fraction, afterFraction) := match rest with
      | '.' :: r =>
        let (ds, after) := digitsOf r
        if ds = [] then ([], rest) else (ds, after)
      | r => ([], r)
    match readExponent afterFraction with
    | some (e, after) =>
      let digits := natOfDigits (whole ++ fraction)
      .ok (.atom none (.float (Double.ofDecimal negative digits (e - Int.ofNat fraction.length))), after)
    | none =>
      if fraction = [] then
        if digitLimit < whole.length then .error (.tooManyDigits whole.length)
        else .ok (.int (signedInt negative (natOfDigits whole)), afterFraction)
      else
        let digits := natOfDigits (whole ++ fraction)
        .ok (.atom none (.float (Double.ofDecimal negative digits (-Int.ofNat fraction.length))),
          afterFraction)

/-- The words that stand for values. -/
def words : List (String × Value) :=
  [("null", .nil), ("true", .bool true), ("false", .bool false), ("NaN", .atom none (.float (.nan 0))),
    ("Infinity", .atom none (.float (.infinite false))), ("-Infinity", .atom none (.float (.infinite true)))]

/-- Reads one of the words that stand for values. -/
def readWord (s : List Char) : Option (Value × List Char) :=
  words.findSome? fun w => (w.1.toList.isPrefixOf? s).map fun rest => (w.2, rest)

/-- How deep arrays and objects may be inside each other. -/
def nestingLimit : Nat := 980

mutual

/-- Reads a value in which brackets may be `room` deep. Every value takes at least one character, so a
fuel of one more than the length of the text is never used up. -/
def readValue : Nat → Nat → List Char → Except Stop (Value × List Char)
  | 0, _, s => stop .expectedValue s
  | fuel + 1, room, s =>
    match s, room with
    | '"' :: rest, _ => do
      let (text, after) ← readString s.length (rest.length + 1) [] rest
      .ok (.str text, after)
    | '{' :: _, 0 | '[' :: _, 0 => .error .tooDeep
    | '{' :: rest, room + 1 =>
      match skip rest with
      | '}' :: after => .ok (.dict none [], after)
      | body => do
        let (entries, after) ← readMembers fuel room [] body
        .ok (.dict none (Entries.ofList entries.reverse), after)
    | '[' :: rest, room + 1 =>
      match skip rest with
      | ']' :: after => .ok (.list none [], after)
      | body => do
        let (items, after) ← readItems fuel room [] body
        .ok (.list none items.reverse, after)
    | s, _ =>
      match readWord s with
      | some read => .ok read
      | none => readNumber s

/-- Reads the items of an array up to its closing bracket. -/
def readItems : Nat → Nat → List Value → List Char → Except Stop (List Value × List Char)
  | 0, _, _, s => stop .expectedValue s
  | fuel + 1, room, acc, s => do
    let (v, after) ← readValue fuel room s
    match skip after with
    | ']' :: rest => .ok (v :: acc, rest)
    | ',' :: rest => readItems fuel room (v :: acc) (skip rest)
    | rest => stop .expectedComma rest

/-- Reads the members of an object up to its closing brace. -/
def readMembers :
    Nat → Nat → List (Key × Value) → List Char → Except Stop (List (Key × Value) × List Char)
  | 0, _, _, s => stop .expectedName s
  | fuel + 1, room, acc, s =>
    match s with
    | '"' :: rest => do
      let (name, after) ← readString s.length (rest.length + 1) [] rest
      match skip after with
      | ':' :: rest => do
        let (v, after) ← readValue fuel room (skip rest)
        match skip after with
        | '}' :: rest => .ok ((.str name, v) :: acc, rest)
        | ',' :: rest => readMembers fuel room ((.str name, v) :: acc) (skip rest)
        | rest => stop .expectedComma rest
      | rest => stop .expectedColon rest
    | _ => stop .expectedName s

end

/-- Reads a document. -/
def read (text : String) : Except (Obstacle Fault) Value :=
  let s := text.toList
  let document := do
    if s.head? = some '\ufeff' then stop .byteOrderMark s
    else
      let (v, rest) ← readValue (s.length + 1) nestingLimit (skip s)
      match skip rest with
      | [] => .ok v
      | rest => stop .extraData rest
  document.mapError (Obstacle.map fun (reason, left) => Fault.at (s.take (s.length - left)) reason)

end TypedRecord.Json
