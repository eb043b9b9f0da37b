import TypedRecord.Value.Text

/-!
# TypedRecord.Refusal

Why a value does not have the shape that is asked of it.

A refusal names the place in the value, the reason, and what was given there. A value may be refused
for several reasons at once; they are reported in the order in which the shape lists its parts,
unknown parts last.
-/

namespace TypedRecord

/-- One step of the way to a place in a value. -/
inductive Place
  | name (text : String)
  | index (i : Int)
  deriving DecidableEq, Inhabited, Repr

/-- A step of the way as it is shown. A name with a dot is set apart. -/
def Place.text : Place → String
  | name text => if text.toList.contains '.' then "\x60" ++ text ++ "\x60" else text
  | index i => toString i

/-- The shapes that values may have to have. -/
inductive Model
  | settings
  | schemaFile
  | schemaDefinition
  | issue
  deriving DecidableEq, Inhabited, Repr

/-- The name of a shape. -/
def Model.name : Model → String
  | settings => "RecordguardSettingsModel"
  | schemaFile => "SchemaFileModel"
  | schemaDefinition => "SchemaDefinitionModel"
  | issue => "ValidationIssueModel"

/-- Why a part is refused. -/
inductive Refusal.Reason
  | notText
  | undecodable
  | notMapping
  | notList
  | notModel (model : Model)
  | missing
  | unknown
  | notFlag
  | unreadableFlag
  | notNumber
  | unreadableNumber
  | fractional
  | notFinite
  | tooLarge
  | tooSmall
  | notChoice
  | notPath
  | badKey
  | rule (message : String)
  deriving DecidableEq, Inhabited, Repr

namespace Refusal.Reason

/-- The word by which a reason is reported. -/
def word : Reason → String
  | notText => "string_type"
  | undecodable => "string_unicode"
  | notMapping => "dict_type"
  | notList => "list_type"
  | notModel _ => "model_type"
  | missing => "missing"
  | unknown => "extra_forbidden"
  | notFlag => "bool_type"
  | unreadableFlag => "bool_parsing"
  | notNumber => "int_type"
  | unreadableNumber => "int_parsing"
  | fractional => "int_from_float"
  | notFinite => "finite_number"
  | tooLarge => "int_parsing_size"
  | tooSmall => "greater_than_equal"
  | notChoice => "enum"
  | notPath => "path_type"
  | badKey => "invalid_key"
  | rule _ => "value_error"

/-- The wording of a reason. -/
def message : Reason → String
  | notText => "Input should be a valid string"
  | undecodable => "Input should be a valid string, unable to parse raw data as a unicode string"
  | notMapping => "Input should be a valid dictionary"
  | notList => "Input should be a valid list"
  | notModel model => "Input should be a valid dictionary or instance of " ++ model.name
  | missing => "Field required"
  | unknown => "Extra inputs are not permitted"
  | notFlag => "Input should be a valid boolean"
  | unreadableFlag => "Input should be a valid boolean, unable to interpret input"
  | notNumber => "Input should be a valid integer"
  | unreadableNumber => "Input should be a valid integer, unable to parse string as an integer"
  | fractional => "Input should be a valid integer, got a number with a fractional part"
  | notFinite => "Input should be a finite number"
  | tooLarge => "Unable to parse input string as an integer, exceeded maximum size"
  | tooSmall => "Input should be greater than or equal to 0"
  | notChoice => "Input should be 'strict' or 'loose'"
  | notPath => "Input is not a valid path for <class 'pathlib.Path'>"
  | badKey => "Keys should be strings"
  | rule message => message

end Refusal.Reason

/-- Where there is more to be read about a reason, if there is. What has values judged by their shape
comes with a manual of its own, in the release that is installed; the addresses in it are no part of
this library, and a refusal only passes them on. -/
abbrev Refusal.Manual : Type := Refusal.Reason → Option String

/-- What was given in a place: the text by which it is shown, and the word for what it is. -/
structure Given where
  shown : String
  kind : String
  deriving DecidableEq, Inhabited, Repr

/-- The word for what a value is. -/
def Value.formName : Value → String
  | .atom _ a => match a with
    | .nil => "NoneType"
    | .bool _ => "bool"
    | .int _ => "int"
    | .float _ => "float"
    | .str _ => "str"
    | .bytes _ => "bytes"
    | .date _ => "date"
    | .moment _ => "datetime"
    | .object _ _ | .bound _ _ => "object"
    | .descriptor _ => "TypeDescriptor"
    | .type _ => "type"
    | .factory _ _ => "function"
  | .reference _ => "object"
  | .buffer _ _ => "bytearray"
  | .list _ _ => "list"
  | @Value.tuple form _ _ => match form with
    | .fixed => "tuple"
    | .deque => "deque"
  | .set _ => "set"
  | .dict _ _ => "dict"
  | .view _ _ => "mappingproxy"
  | .record _ header _ => header.type.className

/-- A value as it is shown where a number in it may be too long for that. -/
def Value.shownAnyway (v : Value) : String :=
  if v.isWritable then v.shown else "<unprintable " ++ v.formName ++ " object>"

/-- What is given with a value. -/
def Given.of (v : Value) : Given := ⟨v.shownAnyway, v.formName⟩

/-- A refusal: the place, the reason, and what was given. -/
structure Refusal where
  place : List Place
  reason : Refusal.Reason
  given : Given
  deriving DecidableEq, Inhabited, Repr

namespace Refusal

/-- The refusal of a part, seen from the whole. -/
def under (step : Place) (r : Refusal) : Refusal := { r with place := step :: r.place }

/-- How many bytes of what was given are shown. -/
def shownLimit : Nat := 50

/-- The characters at the front that fit into a number of bytes. -/
def fitting : Nat → List Char → List Char
  | _, [] => []
  | n, c :: rest => if c.utf8Size ≤ n then c :: fitting (n - c.utf8Size) rest else []

/-- A text of which the middle is left out if it is too long. -/
def abridged (s : String) : String :=
  let cs := Text.charsOf s
  let size := cs.foldl (fun n c => n + c.utf8Size) 0
  if size ≤ shownLimit then s
  else
    let back := (fitting ((shownLimit + 1) / 2 - 1) cs.reverse).reverse
    Text.ofChars (fitting ((shownLimit + 1) / 2) cs ++ ['.', '.', '.'] ++ back)

/-- A refusal on lines of its own. -/
def text (manual : Manual) (r : Refusal) : String :=
  let place := if r.place = [] then "" else ".".intercalate (r.place.map Place.text) ++ "\n"
  let more := match manual r.reason with
    | some address => "\n    For further information visit " ++ address
    | none => ""
  place ++ "  " ++ r.reason.message ++ " [type=" ++ r.reason.word ++ ", input_value=" ++
    abridged r.given.shown ++ ", input_type=" ++ r.given.kind ++ "]" ++ more

/-- How many refusals there are, in words. -/
def countText (refusals : List Refusal) (model : Model) : String :=
  let n := refusals.length
  s!"{n} validation error" ++ (if n = 1 then "" else "s") ++ " for " ++ model.name

/-- All refusals, below a line that counts them. -/
def report (manual : Manual) (refusals : List Refusal) (model : Model) : String :=
  "\n".intercalate (countText refusals model :: refusals.map (text manual))

end Refusal

end TypedRecord
