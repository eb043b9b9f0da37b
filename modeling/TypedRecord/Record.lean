import TypedRecord.Construction
import TypedRecord.Value.Equality

/-!
# TypedRecord.Record

Reading and writing records.

A write stores the wrapped value first and validates the whole record afterwards. If validation
fails, a strict record goes back to what it held before and a loose record keeps the write and counts
as tainted until a later write validates. Reading a field may replace a plain mapping in it by a
record, if the field has become a reference since the mapping was stored.

Every operation is an `Act Record`: the record it leaves behind is part of the outcome even if the
operation fails on the way.
-/

namespace TypedRecord

namespace Record

/-- Makes a record of a type from some data. -/
def make (cat : Catalog) (t : TypeId) (data : Value) (mode : Mode) (validator : Option Validator)
    (registry : Option RegistryId) (sink : Sink) : Traced (Verdict × Record) := do
  let entries ← Act.ofExcept (initialEntries data)
  cat.construct t mode (cat.setupFor t validator registry sink) entries

/-- Makes a record, or fails if the data is invalid. -/
def makeChecked (cat : Catalog) (t : TypeId) (data : Value) (mode : Mode)
    (validator : Option Validator) (registry : Option RegistryId) (sink : Sink) :
    Traced (Verdict × Record) := do
  let (verdict, r) ← make cat t data mode validator registry sink
  if verdict.valid then pure (verdict, r)
  else throw (.rejected (cat.typeAt t).schemaName verdict.first?)

/-! ### Writing -/

/-- The replacement for a value that comes into a field, if it has to be wrapped. -/
def incoming? (cat : Catalog) (header : Header) (field : Key) (v : Value) :
    Traced (Option Value) :=
  match cat.wrappingDescriptor? header.type.id field with
  | .ok (some d) => wrap? cat header.mode header.registry false d v
  | .ok none => pure none
  | .error failure => throw failure

/-- Puts a value into a field, wrapped. -/
def store (cat : Catalog) (field : Key) (v : Value) : Act Record Unit := do
  let r ← get
  let replacement ← Act.lift (incoming? cat r.header field v)
  modify fun r => { r with data := r.data.put field (replacement.getD v) }

/-- Validates the record as it is and keeps the verdict. A valid record is no longer tainted. -/
def revalidate (cat : Catalog) : Act Record Bool := do
  let r ← get
  let verdict ← Act.lift (cat.validateAs r.header.type.id r.header.validator r.header.mode r.data)
  modify fun r => { r with header := { r.header with lastVerdict := some verdict } }
  if verdict.valid then
    modify fun r => { r with header := { r.header with tainted := false, valid := true } }
  pure verdict.valid

/-- The event by which a record reports that it has gone back to earlier data. Its kind is that of
the failure. -/
def rollbackEvent (header : Header) (message : String) (field : Option Key) : Event where
  severity := .info
  kind := ((header.lastVerdict.bind Verdict.first?).map Issue.kind).getD .typeMismatch
  message := message
  field := field
  label := some header.type.schemaName

/-- Reports that the record has gone back to earlier data. -/
def noteRollback (message : String) (field : Option Key) : Act Record Unit := do
  let r ← get
  Act.deliver r.header.sink (rollbackEvent r.header message field)

/-- Marks the record as holding data that failed validation. -/
def taint : Act Record Unit :=
  modify fun r => { r with header := { r.header with tainted := true, valid := false } }

/-- Takes a write to one field back: the previous value is put back, or the field removed if it had
none. -/
def undo (previous : Option Value) (field : Key) (data : Entries Value) : Entries Value :=
  match previous with
  | some v => data.put field v
  | none => data.erase field

/-- A field as the note about a write to it shows it; a number may be too long to be written. -/
def shownField (field : Key) : Except Failure String :=
  if field.isWritable then .ok field.plainText else .error .unwritable

/-- Writes one field. Answers whether the record is valid after the write. -/
def set (cat : Catalog) (field : Key) (v : Value) : Act Record Bool := do
  let before := (← get).data
  store cat field v
  if ← revalidate cat then pure true
  else if (← get).header.mode = .strict then
    modify fun r => { r with data := undo (before.find? field) field r.data }
    let shown ← Act.ofExcept (shownField field)
    noteRollback ("Rolled back write to '" ++ shown ++ "'") (some field)
    pure false
  else
    taint
    pure false

/-- Stores several fields one after the other. -/
def storeAll (cat : Catalog) : List (Key × Value) → Act Record Unit
  | [] => pure ()
  | (field, v) :: rest => do
    store cat field v
    storeAll cat rest

/-- Writes several fields and validates once. A failing strict update takes back all of them. -/
def update (cat : Catalog) (fields : Entries Value) : Act Record Bool := do
  let before := (← get).data
  storeAll cat fields
  if ← revalidate cat then pure true
  else if (← get).header.mode = .strict then
    modify fun r => { r with data := before }
    let shown ← Act.ofExcept (Catalog.shownKeysSorted fields.keys)
    noteRollback ("Rolled back update of " ++ shown) none
    pure false
  else
    taint
    pure false

/-! ### Reading -/

/-- Reads a field; a field that is not there reads as `default`. A mapping in a field that refers to
a schema is turned into a record on the way and stays one. -/
def get (cat : Catalog) (field : Key) (default : Value) : Act Record Value := do
  let r ← MonadState.get
  match r.data.find? field with
  | none => pure default
  | some v =>
    match ← Act.lift (incoming? cat r.header field v) with
    | none => pure v
    | some upgraded =>
      modify fun r => { r with data := r.data.put field upgraded }
      pure upgraded

/-- Reads a field that has to be there. -/
def getPresent (cat : Catalog) (field : Key) : Act Record Value := do
  if (← MonadState.get).data.has field then get cat field .nil else throw (.absentField field)

/-- Whether the record has a field. -/
def has (r : Record) (field : Key) : Bool := r.data.has field

/-- The fields of the record, in order. -/
def keys (r : Record) : List Key := r.data.keys

/-- The data of the record as a plain mapping, nested records flattened. -/
def toPlain (r : Record) : Entries Value := plainEntries r.data

/-- Equality of records: one schema name and equal plain data. -/
def equal (r s : Record) : Bool := (r.toValue none).equal (s.toValue none)

end Record

end TypedRecord
