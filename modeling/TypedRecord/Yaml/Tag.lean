import TypedRecord.Numeric.Reading

/-!
# TypedRecord.Yaml.Tag

What a node stands for.

A tag is written in front of a node or, for plain text, follows from the text: `Tag.ofPlain` knows
the forms of null, truth values, numbers and dates. Everything that has none of these forms is a
text.
-/

namespace TypedRecord.Yaml

/-- What a node stands for. -/
inductive Tag
  | null
  | bool
  | int
  | float
  | binary
  | timestamp
  | orderedMap
  | pairs
  | set
  | str
  | list
  | map
  | merge
  | value
  | other (address : String)
  deriving DecidableEq, Inhabited, Repr

namespace Tag

/-- The tag at an address. -/
def ofAddress (address : String) : Tag :=
  match address with
  | "tag:yaml.org,2002:null" => null
  | "tag:yaml.org,2002:bool" => bool
  | "tag:yaml.org,2002:int" => int
  | "tag:yaml.org,2002:float" => float
  | "tag:yaml.org,2002:binary" => binary
  | "tag:yaml.org,2002:timestamp" => timestamp
  | "tag:yaml.org,2002:omap" => orderedMap
  | "tag:yaml.org,2002:pairs" => pairs
  | "tag:yaml.org,2002:set" => set
  | "tag:yaml.org,2002:str" => str
  | "tag:yaml.org,2002:seq" => list
  | "tag:yaml.org,2002:map" => map
  | "tag:yaml.org,2002:merge" => merge
  | "tag:yaml.org,2002:value" => value
  | address => other address

end Tag

/-! ### Forms of plain text -/

/-- The words for null. -/
def nullWords : List String := ["", "~", "null", "Null", "NULL"]

/-- The words for true. -/
def trueWords : List String := ["yes", "Yes", "YES", "true", "True", "TRUE", "on", "On", "ON"]

/-- The words for false. -/
def falseWords : List String := ["no", "No", "NO", "false", "False", "FALSE", "off", "Off", "OFF"]

/-- Digits in a base, among which underscores may stand. -/
def isDigits (base : Nat) (s : List Char) : Bool :=
  s.all fun c => c == '_' || (digitValue? base c).isSome

/-- A number below sixty, of one or two digits. -/
def isSixtieth (s : List Char) : Bool :=
  match s with
  | [a] => a.isDigit
  | [a, b] => '0' ≤ a && a ≤ '5' && b.isDigit
  | _ => false

/-- Digits and underscores that begin with a digit. -/
def isNumeral (s : List Char) : Bool := s.head?.any Char.isDigit && isDigits 10 s

/-- Splits at a sign. -/
def splitAt (sign : Char) (s : List Char) : List (List Char) :=
  s.foldr (fun c parts =>
    if c == sign then [] :: parts
    else match parts with
      | part :: rest => (c :: part) :: rest
      | [] => [[c]]) [[]]

/-- The forms of whole numbers: binary, octal, decimal, hexadecimal, and in sixties. -/
def isInt (s : List Char) : Bool :=
  let (_, body) := readSign s
  match body with
  | ['0'] => true
  | '0' :: 'b' :: ds => !ds.isEmpty && isDigits 2 ds
  | '0' :: 'x' :: ds => !ds.isEmpty && isDigits 16 ds
  | '0' :: ds => isDigits 8 ds
  | body =>
    match splitAt ':' body with
    | [whole] => isNumeral whole
    | whole :: parts => isNumeral whole && parts.all isSixtieth
    | [] => false

/-- The end of a number that has a point: nothing, or an exponent with a sign. -/
def isExponent (s : List Char) : Bool :=
  match s with
  | [] => true
  | e :: sign :: ds =>
    (e == 'e' || e == 'E') && (sign == '+' || sign == '-') && !ds.isEmpty && ds.all Char.isDigit
  | _ => false

/-- The forms of numbers with a point. A number that begins with its point has no sign. -/
def isFloat (s : List Char) : Bool :=
  let (_, body) := readSign s
  let fraction (s : List Char) := s.dropWhile fun c => c == '_' || c.isDigit
  match body with
  | ['.', 'i', 'n', 'f'] | ['.', 'I', 'n', 'f'] | ['.', 'I', 'N', 'F'] => true
  | '.' :: d :: rest =>
    body == s &&
      (([['n', 'a', 'n'], ['N', 'a', 'N'], ['N', 'A', 'N']].contains (d :: rest)) ||
        (d.isDigit && isExponent (fraction rest)))
  | body =>
    let whole := body.takeWhile fun c => c != '.'
    match body.dropWhile fun c => c != '.' with
    | '.' :: rest =>
      match splitAt ':' whole with
      | [whole] => isNumeral whole && isExponent (fraction rest)
      | whole :: parts => isNumeral whole && parts.all isSixtieth && (fraction rest).isEmpty
      | [] => false
    | _ => false

/-- The parts of a date, possibly with a time, as they are written. -/
structure Timestamp where
  year : Nat
  month : Nat
  day : Nat
  time : Option (Nat × Nat × Nat × List Char) := none
  offset : Option Int := none
  deriving Inhabited, Repr

/-- A number of `least` to `most` digits at the front. -/
def digitsBetween (least most : Nat) (s : List Char) : Option (Nat × List Char) :=
  let ds := (s.take most).takeWhile Char.isDigit
  if ds.length < least then none
  else (readNat? 10 ds).map fun n => (n, s.drop ds.length)

/-- A sign at the front. -/
def expect (c : Char) (s : List Char) : Option (List Char) :=
  match s with
  | x :: rest => if x = c then some rest else none
  | [] => none

/-- The distance from universal time at the end of a time, if one is there, in minutes. -/
def readZone (s : List Char) : Option (Option Int) :=
  let body := s.dropWhile fun c => c == ' ' || c == '\t'
  match body with
  | [] => if s = [] then some none else none
  | ['Z'] => some (some 0)
  | sign :: rest =>
    if sign = '+' ∨ sign = '-' then do
      let (hours, rest) ← digitsBetween 1 2 rest
      let minutes ← match rest with
        | [] => some 0
        | ':' :: rest => do
          let (minutes, rest) ← digitsBetween 2 2 rest
          if rest = [] then some minutes else none
        | _ => none
      some (some (signedInt (sign == '-') (hours * 60 + minutes)))
    else none

/-- Reads a date, possibly with a time. -/
def Timestamp.read? (s : List Char) : Option Timestamp := do
  let (year, rest) ← digitsBetween 4 4 s
  let (month, rest) ← digitsBetween 1 2 (← expect '-' rest)
  let (day, rest) ← digitsBetween 1 2 (← expect '-' rest)
  if rest = [] then some { year, month, day }
  else
    let rest ← match rest with
      | 'T' :: rest | 't' :: rest => some rest
      | rest =>
        let body := rest.dropWhile fun c => c == ' ' || c == '\t'
        if body.length < rest.length then some body else none
    let (hour, rest) ← digitsBetween 1 2 rest
    let (minute, rest) ← digitsBetween 2 2 (← expect ':' rest)
    let (second, rest) ← digitsBetween 2 2 (← expect ':' rest)
    let (fraction, rest) := match rest with
      | '.' :: rest => (rest.takeWhile Char.isDigit, rest.dropWhile Char.isDigit)
      | rest => ([], rest)
    let offset ← readZone rest
    some { year, month, day, time := some (hour, minute, second, fraction), offset }

/-- Whether a text has the form of a date. Without a time, month and day have two digits. -/
def isTimestamp (s : List Char) : Bool :=
  match Timestamp.read? s with
  | some t => t.time.isSome || s.length = 10
  | none => false

/-- A text without the newline at its end. -/
def withoutFinalNewline (s : List Char) : List Char :=
  if s.getLast? = some '\n' then s.dropLast else s

/-- The signs of the language that have no value of their own. -/
def bareSigns : List String := ["!", "&", "*"]

/-- What a plain text stands for. One newline behind it does not matter, unless there is nothing
else. -/
def Tag.ofPlain (text : String) : Tag :=
  let s := withoutFinalNewline text.toList
  let text := if text = "\n" then text else String.ofList s
  if trueWords.contains text || falseWords.contains text then .bool
  else if isFloat s then .float
  else if isInt s then .int
  else if text = "<<" then .merge
  else if nullWords.contains text then .null
  else if isTimestamp s then .timestamp
  else if text = "=" then .value
  else if bareSigns.contains text then .other "tag:yaml.org,2002:yaml"
  else .str

end TypedRecord.Yaml
