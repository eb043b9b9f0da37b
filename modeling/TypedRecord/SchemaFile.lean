import TypedRecord.Catalog
import TypedRecord.Document
import TypedRecord.Shape

/-!
# TypedRecord.SchemaFile

Record types declared in files.

A schema file defines record types and extends record types, its own or those of other files. All
files are read before anything is defined, and everything is defined before anything is extended, so
the order of files matters only where they define one name twice.
-/

namespace TypedRecord

/-- The fields of a schema, as files declare them. -/
abbrev FieldList : Type := List (String × String)

/-- A record type that a file defines. -/
structure SchemaDefinition where
  description : String := ""
  extendable : Bool := true
  fields : FieldList
  deriving DecidableEq, Inhabited, Repr

/-- What a schema file holds. -/
structure SchemaFile where
  schemas : List (String × SchemaDefinition) := []
  extensions : List (String × FieldList) := []
  deriving DecidableEq, Inhabited, Repr

/-- A field list as a schema. -/
def FieldList.schema (fields : FieldList) : Schema := fields.map fun f => (.str f.1, .str f.2)

namespace SchemaFile

/-- What is wrong with the first field that is not in order: it has no name, or its descriptor is
malformed. -/
def fieldFault? (fields : FieldList) : Option String :=
  fields.findSome? fun (name, descriptor) =>
    if name = "" then some "Field names must not be empty"
    else
      match Descriptor.parse descriptor with
      | .ok _ => none
      | .error m => some m.message

/-- Reads a definition. -/
def readDefinition (v : Value) : Shaped SchemaDefinition := do
  let entries ← Shape.members .schemaDefinition v
  let description := Shape.member v entries "description" (some "") Shape.text
  let extendable := Shape.member v entries "extendable" (some true) Shape.flag
  let fields := Shape.member v entries "fields" none fun v =>
    Shape.ensuring fieldFault? v (Shape.mapping Shape.text v)
  let others := Shape.noOthers entries ["description", "extendable", "fields"]
  let (description, extendable, fields, _) ←
    Shape.both description (Shape.both extendable (Shape.both fields others))
  .ok ⟨description, extendable, fields⟩

/-- Reads the contents of a schema file. -/
def read (v : Value) : Shaped SchemaFile := do
  let entries ← Shape.members .schemaFile v
  let schemas := Shape.member v entries "schemas" (some []) (Shape.mapping readDefinition)
  let extensions := Shape.member v entries "extensions" (some []) fun v =>
    Shape.ensuring (fun es => es.findSome? fun e => fieldFault? e.2) v
      (Shape.mapping (Shape.mapping Shape.text) v)
  let others := Shape.noOthers entries ["schemas", "extensions"]
  let (schemas, extensions, _) ← Shape.both schemas (Shape.both extensions others)
  .ok ⟨schemas, extensions⟩

/-- Loads a schema file. A refusal names the file by its path as it is written. -/
def load (files : FileTree) (file : Path.Written) : Except Failure SchemaFile := do
  let document ← Document.load files file.path
  (read document).mapError fun
    | .refused refusals => .refusedSchemaFile file.text refusals
    | .unencodable fault => .unencodable fault

/-! ### Into a registry -/

/-- Defines the record types of definitions. -/
def defineAll (r : RegistryId) : List (String × SchemaDefinition) → Act Catalog Unit
  | [] => pure ()
  | (name, d) :: rest => do
    let _ ← Catalog.define name d.fields.schema (some r) d.description d.extendable
    defineAll r rest

/-- Extends the record type that a registry knows under a name. -/
def extendNamed (r : RegistryId) (name : String) (fields : FieldList) : Act Catalog Unit := do
  match ((← get).registryAt r).find? name with
  | none => throw (.fileExtendsUnknown name)
  | some (.type t) =>
    if ((← get).typeAt t).extendable then Catalog.extend t fields.schema
    else throw (.fileExtendsFixed ((← get).typeAt t).schemaName)
  | some _ => throw (.fileExtendsFactory name)

/-- Makes the extensions of a file. -/
def extendAll (r : RegistryId) : List (String × FieldList) → Act Catalog Unit
  | [] => pure ()
  | (name, fields) :: rest => do
    extendNamed r name fields
    extendAll r rest

/-- Makes the definitions of files, then their extensions. -/
def enter (r : RegistryId) (files : List SchemaFile) : Act Catalog Unit := do
  defineAll r (files.flatMap SchemaFile.schemas)
  extendAll r (files.flatMap SchemaFile.extensions)

/-- Fills a registry from schema files. -/
def loadAll (files : FileTree) (paths : List Path.Written) (r : RegistryId) : Act Catalog Unit := do
  let loaded ← Act.ofExcept (paths.mapM (load files))
  enter r loaded
  let registry := (← get).registryAt r
  Act.log .debug .schemaFiles ("Loaded " ++ toString registry.length ++ " schemas: [" ++
    commaSeparated (registry.sortedNames.map Text.quote) ++ "]")

end SchemaFile

end TypedRecord
