import TypedRecord.Value

/-!
# TypedRecord.Value.Kind

The kind of a value and the name under which it is reported.

The names are the ones descriptors are written with, so a primitive descriptor is checked by
comparing its name with `Value.kindName`. Whatever is bound to a schema — a record, a record
type, or an opaque thing that says so — is of kind *record* and reports the name of that schema.
-/

namespace TypedRecord

/-- The kinds of values. -/
inductive Kind
  | nil
  | bool
  | int
  | float
  | string
  | bytes
  | array
  | dictionary
  | record
  | object
  deriving DecidableEq, Inhabited, Repr

namespace Kind

/-- The word by which a kind is reported. -/
def word : Kind → String
  | nil => "nil"
  | bool => "bool"
  | int => "int"
  | float => "float"
  | string => "string"
  | bytes => "bytes"
  | array => "array"
  | dictionary => "dictionary"
  | record => "record"
  | object => "object"

/-- The name a kind has in descriptors. -/
def name : Kind → String
  | nil => "Nil"
  | bool => "bool"
  | int => "int"
  | float => "float"
  | string => "String"
  | bytes => "bytes"
  | array => "Array"
  | dictionary => "Dictionary"
  | record => "Record"
  | object => "Object"

end Kind

namespace Value

/-- The kind of a value. -/
def kind : Value → Kind
  | .atom _ a => match a with
    | .nil => .nil
    | .bool _ => .bool
    | .int _ => .int
    | .float _ => .float
    | .str _ => .string
    | .bytes _ => .bytes
    | .bound _ _ | .type _ => .record
    | .date _ | .moment _ | .object _ _ | .descriptor _ | .factory _ _ => .object
  | .reference _ => .object
  | .buffer _ _ => .bytes
  | .list _ _ | .tuple _ _ => .array
  | .set _ => .object
  | .dict _ _ | .view _ _ => .dictionary
  | .record _ _ _ => .record

/-- The schema a value is bound to. -/
def schema? : Value → Option String
  | .atom _ (.bound _ schema) => some schema
  | .atom _ (.type name) => some name.schemaName
  | .record _ header _ => some header.type.schemaName
  | _ => none

/-- The name under which the kind of a value is reported. -/
def kindName (v : Value) : String := v.schema?.getD v.kind.name

/-- A value is of kind *record* exactly when it is bound to a schema. -/
theorem kind_eq_record_iff (v : Value) : v.kind = .record ↔ v.schema?.isSome := by
  cases v with
  | atom _ a => cases a <;> simp [kind, schema?]
  | _ => simp [kind, schema?]

/-- A value is of kind *array* exactly when it is a sequence. -/
theorem kind_eq_array_iff (v : Value) : v.kind = .array ↔ ∃ items, v.items? = some items := by
  cases v with
  | atom mark a => cases a <;> simp [kind, items?]
  | _ => simp [kind, items?]

theorem kindName_of_schema? {v : Value} {schema : String} (h : v.schema? = some schema) :
    v.kindName = schema := by simp [kindName, h]

theorem kindName_of_unbound {v : Value} (h : v.schema? = none) : v.kindName = v.kind.name := by
  simp [kindName, h]

end Value

end TypedRecord
