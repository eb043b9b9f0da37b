import TypedRecord.Validation

/-!
# TypedRecord.Catalog

Record types and registries.

A catalog holds every record type and every registry there is; both are referred to by their place.
A record type declares a base schema and may be extended: extensions are kept apart and win over the
base. A registry maps schema names to what builds a record of that name, usually a record type.

A record type resolves references through the registry it was registered with, or, never having been
registered, through that of the type it derives from.
-/

namespace TypedRecord

/-- A record type. `sideField` is the field that holds side data and is never checked. -/
structure RecordType where
  className : String
  schemaName : String
  baseSchema : Schema := []
  description : String := ""
  extendable : Bool := true
  sideField : String := "_mod_data"
  parent : Option TypeId := none
  registry : Option RegistryId := none
  extensions : Schema := []
  deriving Inhabited

/-- The type all record types derive from. It declares no fields. -/
def RecordType.root : RecordType where
  className := "ValidatedRecord"
  schemaName := "ValidatedRecord"

/-- The schema records are held to: the base schema overridden and continued by the extensions. -/
def RecordType.effectiveSchema (t : RecordType) : Schema := Entries.putAll t.baseSchema t.extensions

/-- What builds a record of some schema: a record type, or a function that answers something bound
to a fixed schema, or one that only shows its arguments. -/
inductive Factory
  | type (t : TypeId)
  | bound (schema : String)
  | echo
  deriving DecidableEq, Inhabited, Repr

/-- The word by which a factory is shown. -/
def Factory.word : Factory → String
  | type _ => "type"
  | bound _ => "bound"
  | echo => "echo"

/-- A registry: schema names and their factories, in order of first registration. -/
abbrev Registry : Type := List (String × Factory)

namespace Registry

/-- What builds records of a schema. -/
def find? (r : Registry) (name : String) : Option Factory :=
  (List.find? (fun e => e.1 = name) r).map Prod.snd

/-- Whether a schema is known. -/
def has (r : Registry) (name : String) : Bool := (find? r name).isSome

/-- The registry with a factory under a name. -/
def put (name : String) (factory : Factory) : Registry → Registry
  | [] => [(name, factory)]
  | (n, f) :: rest => if n = name then (n, factory) :: rest else (n, f) :: put name factory rest

theorem find?_cons (name other : String) (factory : Factory) (rest : Registry) :
    find? ((other, factory) :: rest) name = if other = name then some factory else find? rest name := by
  by_cases h : other = name <;> simp [find?, h]

/-- What is registered under a name is found there, and no other name is affected. -/
theorem find?_put (name other : String) (factory : Factory) (r : Registry) :
    find? (put name factory r) other = if other = name then some factory else find? r other := by
  induction r with
  | nil => simp only [put, find?_cons, eq_comm]
  | cons e rest ih =>
    obtain ⟨n, f⟩ := e
    by_cases hn : n = name
    · subst hn
      rw [put, if_pos rfl, find?_cons, find?_cons]
      by_cases h : n = other
      · simp [h]
      · simp [h, Ne.symm h]
    · rw [put, if_neg hn, find?_cons, find?_cons, ih]
      by_cases h : n = other
      · have hother : other ≠ name := h ▸ hn
        simp [h, hother]
      · simp [h]

/-- The names in order of registration. -/
def names (r : Registry) : List String := r.map Prod.fst

/-- The names in ascending order. -/
def sortedNames (r : Registry) : List String := r.names.mergeSort Text.upTo

end Registry

/-- All record types and registries. -/
structure Catalog where
  types : List RecordType := [.root]
  registries : List Registry := []
  deriving Inhabited

namespace Catalog

/-- A record type; a place that holds none stands for the root type. -/
def typeAt (cat : Catalog) (t : TypeId) : RecordType := cat.types.getD t .root

/-- What records show of their type. -/
def typeName (cat : Catalog) (t : TypeId) : TypeName where
  id := t
  className := (cat.typeAt t).className
  schemaName := (cat.typeAt t).schemaName

/-- A registry; a place that holds none stands for the empty registry. -/
def registryAt (cat : Catalog) (r : RegistryId) : Registry := cat.registries.getD r []

/-- The registry through which a type resolves references. A type derives from a type that was
there before it, so the search ends. -/
def registryOf (cat : Catalog) (t : TypeId) : Option RegistryId :=
  match (cat.typeAt t).registry with
  | some r => some r
  | none =>
    match (cat.typeAt t).parent with
    | some p => if p < t then registryOf cat p else none
    | none => none
  termination_by t

/-- Where types are registered and derived as in another catalog, references are resolved as there. -/
theorem registryOf_congr {cat cat' : Catalog}
    (h : ∀ t, (cat'.typeAt t).registry = (cat.typeAt t).registry ∧
      (cat'.typeAt t).parent = (cat.typeAt t).parent) (t : TypeId) :
    cat'.registryOf t = cat.registryOf t := by
  induction t using Nat.strongRecOn with
  | ind t ih =>
    rw [registryOf, registryOf, (h t).1, (h t).2]
    cases (cat.typeAt t).registry with
    | some r => rfl
    | none =>
      cases (cat.typeAt t).parent with
      | none => rfl
      | some p =>
        by_cases hp : p < t
        · simp [hp, ih p hp]
        · simp [hp]

/-- The schema that records of a type are held to. -/
def schemaOf (cat : Catalog) (t : TypeId) : Schema := (cat.typeAt t).effectiveSchema

/-- The names known to a registry; without a registry all names are. -/
def known (cat : Catalog) (registry : Option RegistryId) : Option (List String) :=
  registry.map fun r => (cat.registryAt r).names

/-- The descriptor by which incoming values of a field are wrapped. Only descriptors given as text
count here; a malformed one is left for validation to report. What is declared in place of a text is
quoted when it is refused, and a number in it may be too long for that. -/
def wrappingDescriptor? (cat : Catalog) (t : TypeId) (field : Key) :
    Except Failure (Option Descriptor) :=
  match (cat.schemaOf t).find? field with
  | some declared =>
    if declared.isWritable then .ok declared.readDescriptor.toOption else .error .unwritable
  | none => .ok none

/-- A field that is wrapped by a descriptor is declared to have it. -/
theorem wrappingDescriptor?_eq_some {cat : Catalog} {t : TypeId} {field : Key} {d : Descriptor}
    (h : cat.wrappingDescriptor? t field = .ok (some d)) :
    ∃ declared, (cat.schemaOf t).find? field = some declared ∧
      declared.readDescriptor = .ok d := by
  unfold wrappingDescriptor? at h
  split at h
  next declared hfind =>
    split at h
    · cases hread : declared.readDescriptor with
      | error fault => simp [hread, Except.toOption] at h
      | ok d' =>
          simp only [hread, Except.toOption, Except.ok.injEq, Option.some.injEq] at h
          exact ⟨declared, hfind, h ▸ hread⟩
    · cases h
  next => cases h

/-- What can be written has a descriptor, or is left for validation. -/
theorem wrappingDescriptor?_eq_ok {cat : Catalog} {t : TypeId} {field : Key}
    (h : ∀ declared, (cat.schemaOf t).find? field = some declared → declared.isWritable = true) :
    ∃ descriptor, cat.wrappingDescriptor? t field = .ok descriptor := by
  unfold wrappingDescriptor?
  cases hfind : (cat.schemaOf t).find? field with
  | none => exact ⟨none, rfl⟩
  | some declared => exact ⟨_, if_pos (h declared hfind)⟩

/-- How deep descriptors may lead into a value: the records of one type inside those of another, each
behind the arrays of a field. -/
def depth (cat : Catalog) : Nat :=
  cat.types.foldl (fun sum t =>
    sum + (t.baseSchema ++ t.extensions).foldl (fun n e => max n e.2.declaredDepth) 1) 0

/-- The catalog with the values in schemas changed. -/
def mapSchemas (f : Schema → Schema) (cat : Catalog) : Catalog :=
  { cat with types := cat.types.map fun t =>
      { t with baseSchema := f t.baseSchema, extensions := f t.extensions } }

/-- The catalog with a record type changed. -/
def updateType (cat : Catalog) (t : TypeId) (f : RecordType → RecordType) : Catalog :=
  { cat with types := cat.types.modify t f }

/-- The type that is changed is changed, and no other one is. -/
theorem typeAt_updateType {cat : Catalog} {t : TypeId} (h : t < cat.types.length)
    (f : RecordType → RecordType) (u : TypeId) :
    (cat.updateType t f).typeAt u = if u = t then f (cat.typeAt t) else cat.typeAt u := by
  unfold typeAt updateType
  simp only [List.getD_eq_getElem?_getD, List.getElem?_modify]
  by_cases hu : u = t
  · subst hu
    simp [List.getElem?_eq_getElem h]
  · simp [hu, Ne.symm hu]

@[simp] theorem registries_updateType (cat : Catalog) (t : TypeId) (f : RecordType → RecordType) :
    (cat.updateType t f).registries = cat.registries := rfl

/-- The catalog with a registry changed. -/
def updateRegistry (cat : Catalog) (r : RegistryId) (f : Registry → Registry) : Catalog :=
  { cat with registries := cat.registries.modify r f }

/-- The catalog with one more registry, an empty one, and its place. -/
def addRegistry (cat : Catalog) : Catalog × RegistryId :=
  ({ cat with registries := cat.registries ++ [[]] }, cat.registries.length)

/-- The catalog with one more record type, and its place. -/
def addType (cat : Catalog) (t : RecordType) : Catalog × TypeId :=
  ({ cat with types := cat.types ++ [t] }, cat.types.length)

/-- The type that is added takes the first free place. -/
theorem typeAt_addType (cat : Catalog) (t : RecordType) (u : TypeId) :
    (cat.addType t).1.typeAt u = if u = cat.types.length then t else cat.typeAt u := by
  unfold typeAt addType
  simp only [List.getD_eq_getElem?_getD]
  by_cases h : u < cat.types.length
  · rw [List.getElem?_append_left h, if_neg (Nat.ne_of_lt h)]
  · have hle : cat.types.length ≤ u := Nat.le_of_not_lt h
    rw [List.getElem?_append_right hle, List.getElem?_eq_none hle]
    by_cases heq : u = cat.types.length
    · simp [heq]
    · have hpast : u - cat.types.length ≠ 0 :=
        Nat.sub_ne_zero_of_lt (Nat.lt_of_le_of_ne hle (Ne.symm heq))
      simp [heq, hpast]

/-- The registry that is changed is changed, and no other one is. -/
theorem registryAt_updateRegistry {cat : Catalog} {r : RegistryId} (h : r < cat.registries.length)
    (f : Registry → Registry) (s : RegistryId) :
    (cat.updateRegistry r f).registryAt s =
      if s = r then f (cat.registryAt r) else cat.registryAt s := by
  unfold registryAt updateRegistry
  simp only [List.getD_eq_getElem?_getD, List.getElem?_modify]
  by_cases hs : s = r
  · subst hs
    simp [List.getElem?_eq_getElem h]
  · simp [hs, Ne.symm hs]

/-! ### Operations -/

/-- Registers a factory under a schema name; a name that is taken is taken over. -/
def register (r : RegistryId) (name : String) (factory : Factory) : Act Catalog Unit := do
  if name = "" then throw .emptySchemaName
  if ((← get).registryAt r).has name then
    Act.log .warning .registry ("Replacing registered schema '" ++ name ++ "'")
  modify fun cat => cat.updateRegistry r (Registry.put name factory)
  Act.log .debug .registry ("Registered schema '" ++ name ++ "'")

/-- Registers a record type under its schema name and lets it resolve references through the same
registry. -/
def registerType (r : RegistryId) (t : TypeId) : Act Catalog Unit := do
  modify fun cat => cat.updateType t fun type => { type with registry := some r }
  register r ((← get).typeAt t).schemaName (.type t)

/-- Removes a schema name. -/
def unregister (r : RegistryId) (name : String) : Act Catalog Unit := do
  if ((← get).registryAt r).has name then
    modify fun cat => cat.updateRegistry r fun registry => registry.filter fun e => e.1 ≠ name
  else throw (.unknownSchema name)

/-- What builds records of a schema. -/
def factory (cat : Catalog) (r : RegistryId) (name : String) : Except Failure Factory :=
  match (cat.registryAt r).find? name with
  | some f => .ok f
  | none => .error (.unknownSchema name)

/-- Makes sure that a text can be the name of a type: it can be written as bytes, and none of them is
zero. -/
def nameable (name : String) : Except Failure Unit :=
  match Text.encodingFault? name with
  | some fault => .error (.unencodable fault)
  | none => if name.toList.contains '\x00' then .error .wrongContent else .ok ()

/-- Defines a record type below the root and, if a registry is given, registers it. -/
def define (name : String) (fields : Schema) (registry : Option RegistryId) (description : String)
    (extendable : Bool) : Act Catalog TypeId := do
  Act.ofExcept (nameable name)
  let t ← modifyGet fun cat =>
    let (cat, t) := cat.addType {
      className := name
      schemaName := name
      baseSchema := fields
      description := description
      extendable := extendable
      parent := some 0 }
    (t, cat)
  match registry with
  | some r => registerType r t
  | none => pure ()
  pure t

/-- The attributes that a derived record type declares for itself. -/
structure Overrides where
  fields : Option Schema := none
  schemaName : Option String := none
  description : Option String := none
  extendable : Option Bool := none
  sideField : Option String := none
  deriving Inhabited

/-- Defines a record type below another one. What it does not declare it takes over, except for the
schema name, which is its own name, the registry, which it goes on looking up, and the extensions, of
which it has none yet. -/
def derive (name : String) (base : TypeId) (own : Overrides) : Act Catalog TypeId := do
  Act.ofExcept (nameable name)
  modifyGet fun cat =>
    let b := cat.typeAt base
    let (cat, t) := cat.addType {
      className := name
      schemaName := own.schemaName.getD name
      baseSchema := own.fields.getD b.baseSchema
      description := own.description.getD b.description
      extendable := own.extendable.getD b.extendable
      sideField := own.sideField.getD b.sideField
      parent := some base }
    (t, cat)

/-- The keys of a mapping as a message shows them, in ascending order. Keys without a common order
cannot be shown, and neither can numbers that are too long to be written. -/
def shownKeysSorted (fields : List Key) : Except Failure String :=
  match Key.sorted? fields with
  | some keys =>
    if keys.all Key.isWritable then .ok ("[" ++ commaSeparated (keys.map Key.shown) ++ "]")
    else .error .unwritable
  | none => .error .wrongKind

/-- Adds fields to a record type, or overrides some. The extension has happened by the time it is
logged, and logging fails when the fields have no common order. -/
def extend (t : TypeId) (fields : Schema) : Act Catalog Unit := do
  let type := (← get).typeAt t
  if !type.extendable then throw (.notExtendable type.schemaName)
  modify fun cat => cat.updateType t fun type =>
    { type with extensions := type.extensions.putAll fields }
  let shown ← Act.ofExcept (shownKeysSorted fields.keys)
  Act.log .debug .records ("Extended schema '" ++ type.schemaName ++ "' with " ++ shown)

/-- Takes back all extensions of a record type. -/
def resetExtensions (t : TypeId) : Act Catalog Unit :=
  modify fun cat => cat.updateType t fun type => { type with extensions := [] }

end Catalog

end TypedRecord
