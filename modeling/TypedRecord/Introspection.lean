import TypedRecord.Catalog

/-!
# TypedRecord.Introspection

What a record type declares, field by field, for documentation and tools.
-/

namespace TypedRecord

/-- Which part of a schema a field's descriptor comes from. -/
inductive Origin
  | base
  | extension
  deriving DecidableEq, Inhabited, Repr

/-- The word by which an origin is reported. -/
def Origin.word : Origin → String
  | base => "base"
  | extension => "extension"

/-- The origin written by a word. -/
def Origin.ofWord? : String → Option Origin
  | "base" => some .base
  | "extension" => some .extension
  | _ => none

/-- The description of one field. -/
structure FieldDescription where
  type : String
  isNullable : Bool := false
  isArray : Bool := false
  elementType : Option String := none
  isReference : Bool := false
  isValidDescriptor : Bool := true
  isBaseField : Bool
  origin : Origin
  deriving DecidableEq, Inhabited, Repr

/-- The description of a record type. -/
structure SchemaDescription where
  name : String
  description : String
  isExtendable : Bool
  baseSchema : List (String × String)
  extendedSchema : List (String × String)
  fields : List (String × FieldDescription)
  deriving DecidableEq, Inhabited, Repr

/-- Describes a field from what it was declared with. A malformed descriptor is shown as it is. -/
def describeField (declared : Value) (isBaseField : Bool) (origin : Origin) :
    FieldDescription :=
  match declared.readDescriptor with
  | .error _ => {
      type := declared.plainText
      isValidDescriptor := false
      isBaseField := isBaseField
      origin := origin }
  | .ok d => {
      type := d.text
      isNullable := d.nullable
      isArray := d.isArray
      elementType := d.element?.map Descriptor.text
      isReference := d.referenced?.isSome
      isBaseField := isBaseField
      origin := origin }

/-- Describes a field whose origin is written by a word, which must be one of the two there are. -/
def describeFieldAs (declared : Value) (isBaseField : Bool) (origin : String) :
    Except Failure FieldDescription :=
  match Origin.ofWord? origin with
  | some origin => .ok (describeField declared isBaseField origin)
  | none => .error .indescribable

/-- A schema as a list of names and descriptors; it must consist of texts. Fields of one text are one
field. -/
def listing (schema : Schema) : Except Failure (List (String × String)) := do
  let fields ← schema.mapM fun f =>
    match f.1.reportable?, f.2.reportable? with
    | some name, some descriptor => .ok (name, descriptor)
    | _, _ => .error .indescribable
  .ok (Named.ofList fields)

/-- Describes a record type by its effective schema. -/
def describe (t : RecordType) : Except Failure SchemaDescription := do
  let fields ← t.effectiveSchema.mapM fun f =>
    match f.1.reportable? with
    | some name =>
      let origin := if t.extensions.has f.1 then Origin.extension else Origin.base
      Except.ok (name, describeField f.2 (t.baseSchema.has f.1) origin)
    | none => .error .indescribable
  pure {
    name := t.schemaName
    description := t.description
    isExtendable := t.extendable
    baseSchema := ← listing t.baseSchema
    extendedSchema := ← listing t.extensions
    fields := Named.ofList fields }

end TypedRecord
