import TypedRecord.Failure
import TypedRecord.Numeric.Reading
import TypedRecord.Text.Blank
import TypedRecord.Text.Case
import TypedRecord.Text.Digit
import TypedRecord.Yaml.Binary
import TypedRecord.Yaml.Tag

/-!
# TypedRecord.Yaml.Atom

The atom that a text spells under a tag.

A tag may be written in front of a text that does not have its form, so these readers take more than
the forms of plain text: digits of all scripts, blanks around numbers, words in any case. A text that
they do not take either has no value, and the failures differ by tag as they do for values of that
kind elsewhere.
-/

namespace TypedRecord.Yaml

/-- A text as a number is read from it: without the blanks around it, and with ASCII digits. -/
def numeral (s : List Char) : List Char := Text.trimNumber (s.map Text.asciiDigit)

/-- A number without the sign of its base in front. -/
def withoutBaseSign (base : Nat) (s : List Char) : List Char :=
  match s with
  | '0' :: sign :: ds =>
    if (base = 2 ∧ sign.toLower = 'b') ∨ (base = 8 ∧ sign.toLower = 'o') ∨
        (base = 16 ∧ sign.toLower = 'x') then ds
    else s
  | s => s

/-- The whole number that a text spells in a base, with an optional sign and surrounding blanks. The
length of decimal numbers is limited. -/
def readSigned (base : Nat) (s : List Char) : Except Failure Int :=
  let (negative, ds) := readSign (numeral s)
  let length := (ds.takeWhile Char.isDigit).length
  if base = 10 ∧ digitLimit < length then .error (.tooManyDigits length)
  else
    match readNat? base (withoutBaseSign base ds) with
    | some n => .ok (signedInt negative n)
    | none => .error (.noWholeNumber (String.ofList s) base)

/-- A text without the underscores that group its digits. -/
def ungrouped (text : String) : List Char := text.toList.filter (· != '_')

/-- The whole number that a text spells. -/
def readInt (text : String) : Except Failure Int := do
  let s := ungrouped text
  let (negative, body) := readSign s
  let magnitude ←
    match s, body with
    | [], _ | _, [] => .error .indexOutside
    | _, ['0'] => .ok 0
    | _, '0' :: 'b' :: ds => readSigned 2 ds
    | _, '0' :: 'x' :: ds => readSigned 16 ds
    | _, '0' :: ds => readSigned 8 ('0' :: ds)
    | _, body => do
      let parts ← (splitAt ':' body).mapM (readSigned 10)
      .ok (parts.foldl (fun n d => n * 60 + d) 0)
  .ok (if negative then -magnitude else magnitude)

/-- The number that a text spells, with surrounding blanks. -/
def readDouble (s : List Char) : Except Failure Double :=
  match Double.ofText? (String.ofList (numeral s)) with
  | some x => .ok x
  | none => .error (.noNumber (String.ofList s))

/-- Numbers added up, each times its unit, which is sixty times that of the one before. -/
def addSixties (total : Double) (unit : Nat) : List Double → Except Failure Double
  | [] => .ok total
  | x :: xs =>
    match Double.ofInt unit with
    | .infinite _ => .error .numberTooLarge
    | factor => addSixties (total.add (x.mul factor)) (unit * 60) xs

/-- The number that a text spells, possibly in sixties, which are added up from the last part on. One
word for what is not a number always means the same one; otherwise `payload` is that of a new one. -/
def readFloat (payload : Nat) (text : String) : Except Failure Double := do
  let s := Text.lowered (ungrouped text)
  let (negative, body) := readSign s
  if s = [] then .error .indexOutside
  else if body = ['.', 'n', 'a', 'n'] then .ok (.nan 0)
  else
    let magnitude ←
      if body = ['.', 'i', 'n', 'f'] then .ok (Double.infinite false)
      else do
        let parts ← (splitAt ':' body).mapM readDouble
        match parts with
        | [x] => .ok x
        | parts => addSixties Double.zero 1 parts.reverse
    match magnitude with
    | .nan _ => .ok (.nan payload)
    | magnitude => .ok (if negative then magnitude.negate else magnitude)

/-- The truth value that a word in any case stands for. -/
def readBool (text : String) : Except Failure Bool :=
  let word := String.ofList (Text.lowered text.toList)
  if trueWords.contains word then .ok true
  else if falseWords.contains word then .ok false
  else .error (.unknownWord word)

/-- Digits after a point, as millionths. -/
def millionths (digits : List Char) : Nat :=
  (readDigits? 10 0 ((digits ++ List.replicate 6 '0').take 6)).getD 0

/-- The date that a text spells, possibly with a time. -/
def readTimestamp (text : String) : Except Failure Atom :=
  match Timestamp.read? (withoutFinalNewline text.toList) with
  | none => .error .unsupportedOperation
  | some t =>
    let date : Date := ⟨t.year, t.month, t.day⟩
    match t.time with
    | none =>
      match date.fault? with
      | none => .ok (.date date)
      | some fault => .error (.noSuchDate fault)
    | some (hour, minute, second, fraction) =>
      let moment : Moment := ⟨date, hour, minute, second, millionths fraction, t.offset⟩
      match moment.fault? with
      | none => .ok (.moment moment)
      | some fault => .error (.noSuchDate fault)

/-- Whether a tag is one of atoms. -/
def Tag.isAtomic : Tag → Bool
  | .null | .bool | .int | .float | .binary | .timestamp | .str => true
  | _ => false

/-- The atom that a text spells under a tag; `payload` is for a number that is none. -/
def Tag.read (tag : Tag) (payload : Nat) (content : String) : Except Failure Atom :=
  match tag with
  | .null => .ok .nil
  | .bool => (readBool content).map .bool
  | .int => (readInt content).map .int
  | .float => (readFloat payload content).map .float
  | .binary =>
    match decodeBinary? content with
    | some data => .ok (.bytes data)
    | none => .error .malformedYaml
  | .timestamp => readTimestamp content
  | .str => .ok (.str content)
  | _ => .error .malformedYaml

end TypedRecord.Yaml
