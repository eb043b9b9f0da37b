import TypedRecord.Catalog
import TypedRecord.Value.Plain
import TypedRecord.Value.Reference

/-!
# TypedRecord.Construction

Building records, and building the records inside them.

Incoming data is copied, then every declared field is *wrapped*: where its descriptor refers to a
schema that the registry knows, a plain mapping is turned into a record of that schema, and so is
every mapping in a typed array. A mapping that the nested schema rejects is kept as it is, so that
validation of the outer record finds it. Last the candidate is validated; data that fails is never
committed.

Nested records are built by the same rules, so wrapping and preparing data are one recursion. It
descends into the data and not into the schemas, which may refer to each other in circles.

* `wrap?` answers the value that takes the place of another, or none if that one stands.
* `prepare` copies and wraps the entries of a mapping, `judge` validates the result.
* `construct` does both.
-/

namespace TypedRecord

/-- What wrapping does at a descriptor, once its reference resolves. -/
inductive Wrapping
  | build (target : String) (factory : Factory)
  | items (element : Descriptor)
  deriving DecidableEq, Inhabited

/-- What wrapping does at a descriptor, if anything: the registry has to know the schema that the
descriptor, or its innermost element, refers to. -/
def Catalog.wrapping? (cat : Catalog) (registry : Option RegistryId) (d : Descriptor) :
    Option Wrapping := do
  let target ← d.referenced?
  let r ← registry
  let factory ← (cat.registryAt r).find? target
  match d with
  | .named _ _ => some (.build target factory)
  | .array element _ => some (.items element)

/-- How records of a type are built: the registry, the validator and the sink they are given. -/
structure Setup where
  registry : Option RegistryId
  validator : Validator
  sink : Sink
  deriving DecidableEq, Inhabited, Repr

/-- The setup of a record for which only a mode is given: it uses its type's registry and reports to
the log. -/
def Catalog.defaultSetup (cat : Catalog) (t : TypeId) : Setup where
  registry := cat.registryOf t
  validator := { registry := cat.registryOf t, sink := .logging }
  sink := .logging

/-- A record: what its value shows, as the subject of operations. -/
structure Record where
  header : Header
  data : Entries Value
  deriving Inhabited

/-- A record as a value. -/
def Record.toValue (r : Record) (mark : Mark) : Value := .record mark r.header r.data

/-- The data of a record of some type as validation sees it: without the field for side data. -/
def Catalog.visible (cat : Catalog) (t : TypeId) (data : Entries Value) : Entries Value :=
  data.filter fun e => !e.1.same (.str (cat.typeAt t).sideField)

/-- A record of a type that holds no data yet. -/
def Catalog.blank (cat : Catalog) (t : TypeId) (mode : Mode) (setup : Setup) : Record where
  header := {
    type := cat.typeName t
    mode := mode
    registry := setup.registry
    validator := setup.validator
    sink := setup.sink
    valid := false
    tainted := false
    initialVerdict := .success
    lastVerdict := none }
  data := []

/-- Validates data against a type. -/
def Catalog.validateAs (cat : Catalog) (t : TypeId) (v : Validator) (mode : Mode)
    (data : Entries Value) : Traced Verdict :=
  validate (cat.known v.registry) v (.dict none (cat.visible t data)) (cat.schemaOf t) mode
    (some (cat.typeAt t).schemaName)

/-- The event by which a record reports that its initial data was rejected. -/
def rejectionEvent (schema : String) (verdict : Verdict) : Event where
  severity := .error
  kind := .constructionRejected
  message := "Rejected initial data: " ++ (verdict.first?.map Issue.message).getD "invalid"
  field := (verdict.first?.bind Issue.field).map Key.str
  label := some schema

/-- Validates prepared data and commits it to a new record if it is valid. A type without fields
accepts everything. The verdict is that on the data, valid or not. -/
def Catalog.judge (cat : Catalog) (t : TypeId) (mode : Mode) (setup : Setup)
    (candidate : Entries Value) : Traced (Verdict × Record) := do
  let blank := cat.blank t mode setup
  if cat.schemaOf t = [] then
    pure (.success, ⟨{ blank.header with valid := true }, candidate⟩)
  else
    let verdict ← cat.validateAs t setup.validator mode candidate
    let judged := { blank.header with initialVerdict := verdict, lastVerdict := some verdict }
    if verdict.valid then pure (verdict, ⟨{ judged with valid := true }, candidate⟩)
    else
      Act.deliver setup.sink (rejectionEvent (cat.typeAt t).schemaName verdict)
      pure (verdict, ⟨judged, []⟩)

/-- The value that stands where another was: its replacement, or itself, copied if it is new to the
record. -/
def settle (fresh : Bool) (replacement : Option Value) (v : Value) : Value :=
  replacement.getD (if fresh then v.copy else v)

/-- Items settled one by one. -/
def settleItems (fresh : Bool) (replacements : List (Option Value)) (items : List Value) :
    List Value :=
  List.zipWith (settle fresh) replacements items

/-- Makes sure that the values of some entries can be copied: an object that holds itself cannot. -/
def copyable (entries : Entries Value) : Except Failure Unit :=
  if entries.any fun e => e.2.meets Value.isCopiedDeeply then .error .circular else .ok ()

/-- The log line for a mapping that stays one because no record could be built of it. -/
def keptRaw (target : String) : Traced Unit :=
  Act.log .debug .records
    ("Keeping raw mapping for '" ++ target ++ "': nested construction rejected")

mutual

/-- The value that takes the place of `v` at a descriptor, or none if `v` stands. With `fresh`, a
list that is made anew holds copies of the items that stand; the items of a tuple are never
copied. -/
def wrap? (cat : Catalog) (mode : Mode) (registry : Option RegistryId) (fresh : Bool)
    (d : Descriptor) : Value → Traced (Option Value)
  | .list _ items =>
    match cat.wrapping? registry d with
    | some (.items element) => do
      let replacements ← wrapItems cat mode registry fresh element items
      if replacements.any Option.isSome then
        pure (some (.list none (settleItems fresh replacements items)))
      else pure none
    | _ => pure none
  | .tuple _ items =>
    match cat.wrapping? registry d with
    | some (.items element) => do
      let replacements ← wrapItems cat mode registry false element items
      pure (some (.list none (settleItems false replacements items)))
    | _ => pure none
  | .dict _ entries =>
    match cat.wrapping? registry d with
    | some (.build target (.type t)) => do
      let setup := cat.defaultSetup t
      Act.ofExcept (copyable entries)
      let candidate ← prepare cat mode setup.registry t entries
      let (_, nested) ← cat.judge t mode setup candidate
      if nested.header.valid then pure (some (nested.toValue none))
      else
        keptRaw target
        pure none
    | some (.build _ (.bound schema)) => pure (some (.atom none (.bound none schema)))
    | some (.build _ .echo) =>
      let data := .dict none (if fresh then copyEntries entries else entries)
      pure (some (.list none [data, .str mode.word]))
    | _ => pure none
  | .view _ entries =>
    match cat.wrapping? registry d with
    | some (.build target (.type t)) => do
      let setup := cat.defaultSetup t
      Act.ofExcept (copyable entries)
      let candidate ← prepare cat mode setup.registry t entries
      let (_, nested) ← cat.judge t mode setup candidate
      if nested.header.valid then pure (some (nested.toValue none))
      else
        keptRaw target
        pure none
    | some (.build _ (.bound schema)) => pure (some (.atom none (.bound none schema)))
    | some (.build _ .echo) => pure (some (.list none [.dict none entries, .str mode.word]))
    | _ => pure none
  | .reference _ => if (cat.wrapping? registry d).isSome then throw .circular else pure none
  | _ => pure none

/-- The replacements of some items at one descriptor. -/
def wrapItems (cat : Catalog) (mode : Mode) (registry : Option RegistryId) (fresh : Bool)
    (d : Descriptor) : List Value → Traced (List (Option Value))
  | [] => pure []
  | v :: vs => do
    let replacement ← wrap? cat mode registry fresh d v
    let rest ← wrapItems cat mode registry fresh d vs
    pure (replacement :: rest)

/-- The candidate for the data of a record: every value copied, every declared field wrapped. -/
def prepare (cat : Catalog) (mode : Mode) (registry : Option RegistryId) (t : TypeId) :
    List (Key × Value) → Traced (List (Key × Value))
  | [] => pure []
  | (k, v) :: es => do
    let replacement ←
      match cat.wrappingDescriptor? t k with
      | .ok (some d) => wrap? cat mode registry true d v
      | .ok none => pure none
      | .error failure => throw failure
    let rest ← prepare cat mode registry t es
    pure ((k, settle true replacement v) :: rest)

end

/-- Where the registry knows no schema of that name, nothing is wrapped. -/
theorem wrap?_of_none {cat : Catalog} {registry : Option RegistryId} {d : Descriptor}
    (h : cat.wrapping? registry d = none) (mode : Mode) (fresh : Bool) (v : Value) :
    wrap? cat mode registry fresh d v = pure none := by
  cases v <;> simp [wrap?, h]

/-- A value wrapped at a descriptor. -/
def wrap (cat : Catalog) (mode : Mode) (registry : Option RegistryId) (d : Descriptor)
    (v : Value) : Traced Value := do
  let replacement ← wrap? cat mode registry false d v
  pure (replacement.getD v)

/-- Builds a record from the entries of a mapping. -/
def Catalog.construct (cat : Catalog) (t : TypeId) (mode : Mode) (setup : Setup)
    (entries : Entries Value) : Traced (Verdict × Record) := do
  Act.ofExcept (copyable entries)
  let candidate ← prepare cat mode setup.registry t entries
  cat.judge t mode setup candidate

/-- The entries of the data that a record is to be built from. Data that counts as false is no
data. -/
def initialEntries (data : Value) : Except Failure (Entries Value) :=
  if data.truthy then
    match data.entries? with
    | some entries => .ok entries
    | none => .error .unsupportedOperation
  else .ok []

/-- What a factory builds from some data. -/
def Catalog.build (cat : Catalog) (factory : Factory) (mode : Mode) (data : Value) :
    Traced Value :=
  match factory with
  | .type t => do
    let entries ← Act.ofExcept (initialEntries data)
    let (_, r) ← cat.construct t mode (cat.defaultSetup t) entries
    pure (r.toValue none)
  | .bound schema => pure (.atom none (.bound none schema))
  | .echo => pure (.list none [data, .str mode.word])

/-- How a record is set up from what its maker was given. Without a validator the record gets one of
its own, bound to its registry; without a sink it reports to the validator's. -/
def Catalog.setupFor (cat : Catalog) (t : TypeId) (validator : Option Validator)
    (registry : Option RegistryId) (sink : Sink) : Setup :=
  let registry := registry.or (cat.registryOf t)
  let own : Validator := { registry := registry, sink := if sink = .none then .logging else sink }
  let validator := validator.getD own
  ⟨registry, validator, if sink = .none then validator.sink else sink⟩

/-- Judges data as a type's own records would be judged, without building one. -/
def Catalog.validateData (cat : Catalog) (t : TypeId) (data : Value) (mode : Mode)
    (validator : Option Validator) (exhaustive : Bool) : Traced Verdict := do
  let v := validator.getD { registry := cat.registryOf t }
  let registry := v.registry.or (cat.registryOf t)
  let entries ← Act.ofExcept <| match data.entries? with
    | some entries => .ok entries
    | none => .error .unsupportedOperation
  Act.ofExcept (copyable entries)
  let candidate ← prepare cat mode registry t entries
  let data := .dict none (cat.visible t candidate)
  let label := some (cat.typeAt t).schemaName
  if exhaustive then collect (cat.known v.registry) v data (cat.schemaOf t) mode label
  else validate (cat.known v.registry) v data (cat.schemaOf t) mode label

end TypedRecord
