import TypedRecord.Act
import TypedRecord.Matching
import TypedRecord.Shape

/-!
# TypedRecord.Validation

Checking whole records against a schema.

A schema is an ordered mapping from fields to descriptors. Fields are judged in schema order, then,
in strict mode, undeclared keys in data order. Each judgement is a `Finding`: an issue, or the
remark that it cannot be reported, as when the failing field is no text. `findings` lists them all;
`validate` stops at the first one and `collect` goes through all of them, so both read one list.

* `findings` is the report, `excerpt` the neighbourhood shown with each issue.
* `validate`, `collect` report to a sink and answer a `Verdict`.
-/

namespace TypedRecord

/-- A schema. The descriptors are values: usually texts, possibly descriptors already read, and
anything else is a malformed descriptor. -/
abbrev Schema : Type := Entries Value

namespace Value

/-- The descriptor a value declares. -/
def descriptor (v : Value) : Except Descriptor.Malformed Descriptor :=
  match v with
  | .atom _ (.str s) => Descriptor.parse s
  | .atom _ (.descriptor d) => .ok d
  | v => .error ⟨v.shown, .notText⟩

/-- Reads a descriptor that must be given as text. -/
def readDescriptor (v : Value) : Except Descriptor.Malformed Descriptor :=
  match v with
  | .atom _ (.str s) => Descriptor.parse s
  | v => .error ⟨v.shown, .notText⟩

/-- A descriptor that is read from a text is the one that is declared. -/
theorem descriptor_of_readDescriptor {v : Value} {d : Descriptor}
    (h : v.readDescriptor = .ok d) : v.descriptor = .ok d := by
  unfold readDescriptor at h
  split at h
  · exact h
  · cases h

/-- Makes sure that the descriptor a value declares is not nested too deep to be read. -/
def fathomed (v : Value) : Except Failure Value :=
  match v with
  | .atom _ (.str s) =>
    if Descriptor.nestsBeyond Descriptor.nestingLimit s.toList then .error .tooDeep else .ok v
  | v => .ok v

/-- How deep the descriptor a value declares leads into what it describes. -/
def declaredDepth (v : Value) : Nat := (v.descriptor.toOption.map fun d => d.depth + 1).getD 0

end Value

/-- Makes sure that a validator can read the descriptors that values declare, if it reads any. -/
def Validator.fathoms (v : Validator) (declared : List Value) : Except Failure Unit :=
  if v.enabled then declared.forM fun d => do let _ ← d.fathomed else .ok ()

/-- The mode that a value stands for where a mode may be given as a truth value. -/
def Mode.ofValue (v : Value) : Mode := if v.truthy then .strict else .loose

/-- The validation of one field or one undeclared key, where it failed. -/
abbrev Finding : Type := Except Failure Issue

/-- The fields among which neighbours are looked for: those of the schema, then the undeclared keys
of the data. -/
def orderedFields (data : Entries Value) (schema : Schema) : List Key :=
  schema.keys ++ data.keys.filter fun k => !schema.has k

/-- The fields at most `size` places from `field`. -/
def window (size : Int) (fields : List Key) (field : Key) : List Key :=
  if size ≤ 0 then []
  else
    let n := size.toNat
    let i := fields.findIdx fun k => k.same field
    (fields.take (i + n + 1)).drop (i - n)

/-- The fields around `field`, among all `fields`, that the data has, in order. -/
def neighbours (size : Int) (data : Entries Value) (fields : List Key) (field : Key) :
    Entries Value :=
  (window size fields field).filterMap fun k => (data.find? k).map fun v => (k, v)

/-- Previews of the fields around `field` that the data has, in order. -/
def excerpt (size : Int) (data : Entries Value) (fields : List Key) (field : Key) :
    List (Key × String) :=
  (neighbours size data fields field).map fun e => (e.1, e.2.preview)

/-- An excerpt by the texts of its fields, which all must be texts. -/
def reportedExcerpt (es : List (Key × String)) : Shaped (List (String × String)) :=
  Shape.at' (.name "context") (Shape.named .ok es)

/-- The text that a failing field is reported by. It is asked for twice: as the field, which might be
null, and as the first step of the way to the failure, which might be a number. -/
def reportedField (field : Key) : Shaped String :=
  let v := Value.ofKey field
  let asField := if field = .atom none .nil then .ok "" else Shape.text v
  let asStep := match Shape.text v, Shape.number v with
    | .ok s, _ => .ok s
    | .error _, .ok i => .ok (toString i)
    | .error _, .error _ =>
      (Shape.both (Shape.at' (.name "str") (Shape.text v))
        (Shape.at' (.name "int") (Shape.number v))).map Prod.fst
  (Shape.both (Shape.at' (.name "field") asField)
    (Shape.at' (.name "path") (Shape.at' (.index 0) asStep))).map Prod.snd

/-- What an issue says apart from its field and neighbourhood. -/
structure Complaint where
  kind : IssueKind
  message : String
  expected : Option String := none
  actual : Option String := none
  positions : List Nat := []
  deriving DecidableEq, Inhabited, Repr

/-- The issue for a complaint about a field. There is none if something in it cannot be written, or is
no text where a text is asked for. -/
def Complaint.finding (c : Complaint) (size : Int) (data : Entries Value) (fields : List Key)
    (field : Key) : Finding :=
  if !field.isWritable || (neighbours size data fields field).any fun e => !e.2.isWritable then
    .error .unwritable
  else
    match Shape.both (reportedField field) (reportedExcerpt (excerpt size data fields field)) with
    | .ok (name, context) =>
      .ok {
        kind := c.kind
        field := some name
        expected := c.expected
        actual := c.actual
        path := .field name :: c.positions.map .index
        message := c.message
        context := context }
    | .error (.refused refusals) => .error (.unreportable refusals)
    | .error (.unencodable fault) => .error (.unencodable fault)

/-- A position on the way to a mismatch, as it is written in messages. -/
def positionText (i : Nat) : String := s!"[{i}]"

/-- The wording for a value that does not match. -/
def mismatchMessage (field : Key) (d : Descriptor) (v : Value) (m : Mismatch) : String :=
  let head := "Field '" ++ field.plainText ++ "' expected " ++ d.text ++ ", got " ++ v.kindName
  let place :=
    if m.path = [] then ""
    else " (element " ++ String.join (m.path.map positionText) ++ " expected " ++ m.expected.text ++
      ", got " ++ m.actual ++ ")"
  let reason := match m.unknown with
    | some name => ": unknown schema '" ++ name ++ "'"
    | none => ""
  head ++ place ++ reason

/-- The complaint about a declared field, if it is not in order: its descriptor does not parse, it is
absent and not nullable, or it is there and does not match. -/
def complaint? (known : Option (List String)) (data : Entries Value) (field : Key)
    (declared : Value) : Option Complaint :=
  match declared.descriptor with
  | .error m => some {
      kind := .typeMismatch
      message := "Field '" ++ field.plainText ++ "': " ++ m.message
      expected := some declared.plainText
      actual := some ((data.find? field).getD .nil).kindName }
  | .ok d =>
    match data.find? field with
    | none =>
      if d.nullable then none
      else some {
        kind := .missingField
        message := "Missing field '" ++ field.plainText ++ "' (expected " ++ d.text ++ ")"
        expected := some d.text }
    | some v =>
      (mismatch? known d v).map fun m => {
        kind := .typeMismatch
        message := mismatchMessage field d v m
        expected := some d.text
        actual := some v.kindName
        positions := m.path }

/-- The complaint about an undeclared key. -/
def undeclaredComplaint (key : Key) (v : Value) : Complaint where
  kind := .unexpectedField
  message := "Unexpected field '" ++ key.plainText ++ "' in strict mode"
  actual := some v.kindName

/-- The finding for a complaint about a declared field. A descriptor that is no text is shown, so there
is no issue if it cannot be written. -/
def Complaint.declaredFinding (c : Complaint) (size : Int) (data : Entries Value)
    (fields : List Key) (f : Key × Value) : Finding :=
  if f.2.isWritable then c.finding size data fields f.1 else .error .unwritable

/-- The findings on the declared fields, in schema order. -/
def declaredFindings (known : Option (List String)) (size : Int) (data : Entries Value)
    (schema : Schema) : List Finding :=
  let fields := orderedFields data schema
  schema.filterMap fun f =>
    (complaint? known data f.1 f.2).map fun c => c.declaredFinding size data fields f

/-- The findings on undeclared keys, in data order. -/
def undeclaredFindings (size : Int) (data : Entries Value) (schema : Schema) : List Finding :=
  let fields := orderedFields data schema
  (data.filter fun e => !schema.has e.1).map fun e =>
    (undeclaredComplaint e.1 e.2).finding size data fields e.1

/-- The issue raised by a schema without fields. -/
def emptySchemaIssue : Issue := { kind := .emptySchema, message := "Schema is empty" }

/-- The issue raised by data that is no mapping. -/
def notMappingIssue (v : Value) : Issue where
  kind := .typeMismatch
  expected := some "Dictionary"
  actual := some v.kindName
  message := "Record data must be a Dictionary, got " ++ v.kindName

/-- Everything that is wrong with some data, in order. -/
def findings (known : Option (List String)) (size : Int) (data : Value) (schema : Schema)
    (mode : Mode) : List Finding :=
  if schema = [] then [.ok emptySchemaIssue]
  else
    match data.entries? with
    | none => [.ok (notMappingIssue data)]
    | some entries =>
      declaredFindings known size entries schema ++
        match mode with
        | .strict => undeclaredFindings size entries schema
        | .loose => []

/-- Reports an issue to the validator's sink. -/
def report (sink : Sink) (mode : Mode) (label : Option String) (issue : Issue) : Traced Unit :=
  Act.deliver sink (Event.ofIssue issue mode.severity label)

/-- The issues of some findings, up to the first finding that cannot be reported. -/
def issuesOf : List Finding → Except Failure (List Issue)
  | [] => .ok []
  | .error failure :: _ => .error failure
  | .ok issue :: rest => (issuesOf rest).map (issue :: ·)

/-- Validates data, stopping at the first failure. -/
def validate (known : Option (List String)) (v : Validator) (data : Value) (schema : Schema)
    (mode : Mode) (label : Option String) : Traced Verdict :=
  if v.enabled then
    match findings known v.excerpt data schema mode with
    | [] => pure .success
    | .error failure :: _ => Act.fail failure
    | .ok issue :: _ => do
      report v.sink mode label issue
      pure ⟨[issue]⟩
  else pure .success

/-- Validates data and reports every failure. Nothing is reported unless everything can be. -/
def collect (known : Option (List String)) (v : Validator) (data : Value) (schema : Schema)
    (mode : Mode) (label : Option String) : Traced Verdict :=
  if v.enabled then do
    let issues ← Act.ofExcept (issuesOf (findings known v.excerpt data schema mode))
    issues.forM (report v.sink mode label)
    pure ⟨issues⟩
  else pure .success

/-- Checks one value against a declared descriptor. A malformed descriptor is logged, if it can be
written, and matches nothing. -/
def check (known : Option (List String)) (v : Validator) (value declared : Value) : Traced Bool :=
  if v.enabled then
    match declared.descriptor with
    | .ok d => pure (matchesDescriptor known d value)
    | .error m =>
      if declared.isWritable then do
        Act.log .error .checks m.message
        pure false
      else Act.fail .unwritable
  else pure true

end TypedRecord
