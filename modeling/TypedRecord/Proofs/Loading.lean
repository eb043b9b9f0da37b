import Mathlib.Data.List.Nodup
import TypedRecord.CommandLine.Complaint
import TypedRecord.SchemaFile
import TypedRecord.Proofs.Extension

/-!
# TypedRecord.Proofs.Loading

What a registry knows after schema files are entered.

All definitions are made before any extension. A definition adds a type and takes over the name, so of
several definitions of a name the last one stands, and the types that were there before are left as
they are. An extension goes to whatever the name stands for by then; it adds to the extensions of that
type and leaves all names alone. So what each step does to one name decides what the run does
(`Defines`, `Catalog.Extends`), and `Fills` says it of the run: by name for the registry, by place for
the types.

A name must be the name of one type only (`Catalog.IsOrderly`), or an extension under one name would be
seen under another.
-/

namespace TypedRecord

open Act

/-! ### One definition -/

namespace Catalog

/-- A registry whose types are there, each under one name, with extensions that are mappings. -/
structure IsOrderly (cat : Catalog) (r : RegistryId) : Prop where
  registry : r < cat.registries.length
  types : ∀ name t, (cat.registryAt r).find? name = some (.type t) → t < cat.types.length
  apart : ∀ name other t, (cat.registryAt r).find? name = some (.type t) →
    (cat.registryAt r).find? other = some (.type t) → name = other
  distinct : ∀ t, (cat.typeAt t).extensions.Distinct

theorem endsIn_register (r : RegistryId) {name : String} (h : name ≠ "") (factory : Factory)
    (cat : Catalog) :
    EndsIn (register r name factory) cat (cat.updateRegistry r (Registry.put name factory)) () := by
  unfold register
  rw [if_neg h]
  refine EndsIn.get_bind ?_
  -- Taking over a name is logged and makes no other difference.
  cases hhas : (cat.registryAt r).has name <;> exact ⟨rfl, rfl⟩

theorem endsIn_registerType (r : RegistryId) {t : TypeId} {cat : Catalog} (ht : t < cat.types.length)
    (h : (cat.typeAt t).schemaName ≠ "") :
    EndsIn (registerType r t) cat
      ((cat.updateType t fun type => { type with registry := some r }).updateRegistry r
        (Registry.put (cat.typeAt t).schemaName (.type t))) () := by
  have hname : ((cat.updateType t fun type => { type with registry := some r }).typeAt t).schemaName =
      (cat.typeAt t).schemaName := by rw [typeAt_updateType ht, if_pos rfl]
  unfold registerType
  refine (EndsIn.of_modify _ cat).bind (EndsIn.get_bind ?_)
  rw [hname]
  exact endsIn_register r h (.type t) _

end Catalog

/-- The record type that is made of a definition. -/
def SchemaDefinition.type (d : SchemaDefinition) (r : RegistryId) (name : String) : RecordType where
  className := name
  schemaName := name
  baseSchema := d.fields.schema
  description := d.description
  extendable := d.extendable
  parent := some 0
  registry := some r

/-- From one catalog to the other a type was added and took over a name. -/
structure Defines (cat cat' : Catalog) (r : RegistryId) (name : String) (type : RecordType) : Prop where
  types_length : cat'.types.length = cat.types.length + 1
  registries_length : cat'.registries.length = cat.registries.length
  typeAt_eq : ∀ u, cat'.typeAt u = if u = cat.types.length then type else cat.typeAt u
  find?_eq : ∀ other, (cat'.registryAt r).find? other =
    if other = name then some (.type cat.types.length) else (cat.registryAt r).find? other
  registryAt_eq : ∀ s, s ≠ r → cat'.registryAt s = cat.registryAt s

section Define

variable {cat cat' : Catalog} {r : RegistryId} {name : String} {type : RecordType}

theorem exists_define (hr : r < cat.registries.length) (hname : Catalog.nameable name = .ok ())
    (hne : name ≠ "") (d : SchemaDefinition) :
    ∃ cat', EndsIn (Catalog.define name d.fields.schema (some r) d.description d.extendable) cat cat'
        cat.types.length ∧ Defines cat cat' r name (d.type r name) := by
  -- The type is added first, and learns of its registry when it is registered.
  let added := (cat.addType { d.type r name with registry := none }).1
  let known := added.updateType cat.types.length fun type => { type with registry := some r }
  have hadded : cat.types.length < added.types.length := by simp [added, Catalog.addType]
  have hknown : r < known.registries.length := hr
  have htype : added.typeAt cat.types.length = { d.type r name with registry := none } := by
    rw [Catalog.typeAt_addType, if_pos rfl]
  refine ⟨known.updateRegistry r (Registry.put name (.type cat.types.length)), ?_, ?_⟩
  · have hregister := Catalog.endsIn_registerType r hadded (htype ▸ hne)
    rw [htype] at hregister
    unfold Catalog.define
    rw [hname]
    exact EndsIn.bind ⟨rfl, rfl⟩ (EndsIn.bind ⟨rfl, rfl⟩ (hregister.bind (.of_pure _ _)))
  · exact {
      types_length := by simp [known, added, Catalog.updateRegistry, Catalog.updateType, Catalog.addType]
      registries_length := by
        simp [known, added, Catalog.updateRegistry, Catalog.updateType, Catalog.addType]
      typeAt_eq := fun u => by
        show known.typeAt u = _
        rw [Catalog.typeAt_updateType hadded, htype, Catalog.typeAt_addType]
        split <;> rfl
      find?_eq := fun other => by
        rw [Catalog.registryAt_updateRegistry hknown, if_pos rfl, Registry.find?_put]
        rfl
      registryAt_eq := fun s hs => by
        rw [Catalog.registryAt_updateRegistry hknown, if_neg hs]
        rfl }

/-- The name of the new type was no type's name before. -/
theorem Defines.isOrderly (h : Defines cat cat' r name type) (hextensions : type.extensions.Distinct)
    (hcat : cat.IsOrderly r) : cat'.IsOrderly r where
  registry := h.registries_length ▸ hcat.registry
  types other t hfind := by
    rw [h.find?_eq] at hfind
    rw [h.types_length]
    split at hfind
    · cases hfind
      exact Nat.lt_succ_self _
    · exact Nat.lt_succ_of_lt (hcat.types other t hfind)
  apart n m t hn hm := by
    rw [h.find?_eq] at hn hm
    split at hn <;> split at hm
    · next hn' hm' => rw [hn', hm']
    · cases hn
      exact absurd (hcat.types m _ hm) (Nat.lt_irrefl _)
    · cases hm
      exact absurd (hcat.types n _ hn) (Nat.lt_irrefl _)
    · exact hcat.apart n m t hn hm
  distinct u := by
    rw [h.typeAt_eq]
    split
    · exact hextensions
    · exact hcat.distinct u

end Define

namespace SchemaFile

/-! ### All definitions -/

/-- The last definition of a name among some. -/
def last? (ds : List (String × SchemaDefinition)) (name : String) : Option SchemaDefinition :=
  (ds.reverse.find? fun e => e.1 = name).map Prod.snd

theorem last?_cons (n : String) (d : SchemaDefinition) (ds : List (String × SchemaDefinition))
    (name : String) :
    last? ((n, d) :: ds) name = (last? ds name).or (if n = name then some d else none) := by
  unfold last?
  rw [List.reverse_cons, List.find?_append]
  cases ds.reverse.find? fun e => e.1 = name <;> by_cases h : n = name <;> simp [h]

/-- From one catalog to the other definitions were made: the last one of each name stands, and the types
that were there are left as they are. -/
structure DefinesAll (cat cat' : Catalog) (r : RegistryId) (ds : List (String × SchemaDefinition)) :
    Prop where
  types_le : cat.types.length ≤ cat'.types.length
  typeAt_eq : ∀ u, u < cat.types.length → cat'.typeAt u = cat.typeAt u
  registryAt_eq : ∀ s, s ≠ r → cat'.registryAt s = cat.registryAt s
  kept : ∀ name, last? ds name = none →
    (cat'.registryAt r).find? name = (cat.registryAt r).find? name
  defined : ∀ name d, last? ds name = some d →
    ∃ t, (cat'.registryAt r).find? name = some (.type t) ∧ cat.types.length ≤ t ∧
      cat'.typeAt t = d.type r name

/-- A first definition, and then others. -/
theorem DefinesAll.cons {cat next cat' : Catalog} {r : RegistryId} {n : String}
    {d : SchemaDefinition} {ds : List (String × SchemaDefinition)}
    (hfirst : Defines cat next r n (d.type r n)) (hothers : DefinesAll next cat' r ds) :
    DefinesAll cat cat' r ((n, d) :: ds) := by
  have hgrows : cat.types.length < next.types.length := hfirst.types_length ▸ Nat.lt_succ_self _
  constructor
  case types_le => exact Nat.le_trans (Nat.le_of_lt hgrows) hothers.types_le
  case typeAt_eq =>
    intro u hu
    rw [hothers.typeAt_eq u (Nat.lt_trans hu hgrows), hfirst.typeAt_eq, if_neg (Nat.ne_of_lt hu)]
  case registryAt_eq =>
    intro s hs
    rw [hothers.registryAt_eq s hs, hfirst.registryAt_eq s hs]
  case kept =>
    intro name hnone
    rw [last?_cons, Option.or_eq_none_iff] at hnone
    have hother : name ≠ n := by
      rintro rfl
      simp at hnone
    rw [hothers.kept name hnone.1, hfirst.find?_eq, if_neg hother]
  case defined =>
    intro name d' hsome
    rw [last?_cons] at hsome
    cases hlast : last? ds name with
    | some later =>
      -- What is defined once more later on is defined there.
      rw [hlast, Option.some_or] at hsome
      obtain rfl := Option.some.inj hsome
      obtain ⟨t, hfind, ht, htype⟩ := hothers.defined name _ hlast
      exact ⟨t, hfind, Nat.le_trans (Nat.le_of_lt hgrows) ht, htype⟩
    | none =>
      rw [hlast, Option.none_or] at hsome
      obtain ⟨rfl, rfl⟩ : n = name ∧ d = d' := by
        split at hsome
        · next h => exact ⟨h, Option.some.inj hsome⟩
        · cases hsome
      refine ⟨cat.types.length, ?_, Nat.le_refl _, ?_⟩
      · rw [hothers.kept n hlast, hfirst.find?_eq, if_pos rfl]
      · rw [hothers.typeAt_eq _ hgrows, hfirst.typeAt_eq, if_pos rfl]

theorem exists_defineAll {cat : Catalog} {r : RegistryId} (hcat : cat.IsOrderly r)
    {ds : List (String × SchemaDefinition)}
    (hnames : ∀ e ∈ ds, e.1 ≠ "" ∧ Catalog.nameable e.1 = .ok ()) :
    ∃ cat', EndsIn (defineAll r ds) cat cat' () ∧ cat'.IsOrderly r ∧ DefinesAll cat cat' r ds := by
  induction ds generalizing cat with
  | nil =>
    exact ⟨cat, .of_pure () cat, hcat, Nat.le_refl _, fun _ _ => rfl, fun _ _ => rfl,
      fun _ _ => rfl, fun _ _ h => by cases h⟩
  | cons e ds ih =>
    obtain ⟨n, d⟩ := e
    obtain ⟨⟨hne, hname⟩, hrest⟩ := List.forall_mem_cons.mp hnames
    obtain ⟨next, hdefine, hdefines⟩ := exists_define hcat.registry hname hne d
    obtain ⟨cat', hall, horderly, hothers⟩ := ih (hdefines.isOrderly List.Pairwise.nil hcat) hrest
    exact ⟨cat', hdefine.bind hall, horderly, .cons hdefines hothers⟩

/-! ### All extensions -/

/-- The fields by which some extensions extend a name, in their order. -/
def fieldsUnder (es : List (String × FieldList)) (name : String) : FieldList :=
  (es.filter fun e => e.1 = name).flatMap Prod.snd

theorem fieldsUnder_cons (n : String) (fields : FieldList) (es : List (String × FieldList))
    (name : String) :
    (fieldsUnder ((n, fields) :: es) name).schema =
      (if n = name then fields.schema else []) ++ (fieldsUnder es name).schema := by
  by_cases h : n = name <;> simp [fieldsUnder, FieldList.schema, h]

theorem isText_of_mem_schema {fields : FieldList} : ∀ k ∈ fields.schema.keys, k.IsText := by
  intro k hk
  obtain ⟨f, hf, rfl⟩ := List.mem_map.mp hk
  obtain ⟨field, -, rfl⟩ := List.mem_map.mp hf
  exact ⟨none, field.1, rfl⟩

/-- A registry knows a name for a type that may be extended. -/
def CanExtend (cat : Catalog) (r : RegistryId) (name : String) : Prop :=
  ∃ t, (cat.registryAt r).find? name = some (.type t) ∧ (cat.typeAt t).extendable = true

/-- What a registry cannot extend, it refuses to. -/
theorem result_extendNamed_of_not {cat : Catalog} {r : RegistryId} {name : String}
    (h : ¬ CanExtend cat r name) (fields : FieldList) :
    ∃ failure, ((extendNamed r name fields).run cat).result = .error failure ∧
      failure.category = "ValueError" := by
  unfold extendNamed
  rw [run_get_bind]
  cases hfind : (cat.registryAt r).find? name with
  | none => exact ⟨.fileExtendsUnknown name, rfl, rfl⟩
  | some factory =>
    cases factory with
    | type t =>
      have hfixed : (cat.typeAt t).extendable = false := by
        cases hextendable : (cat.typeAt t).extendable with
        | false => rfl
        | true => exact absurd ⟨t, hfind, hextendable⟩ h
      simp only [run_get_bind, hfixed]
      exact ⟨.fileExtendsFixed (cat.typeAt t).schemaName, rfl, rfl⟩
    | bound schema => exact ⟨.fileExtendsFactory name, rfl, rfl⟩
    | echo => exact ⟨.fileExtendsFactory name, rfl, rfl⟩

theorem endsIn_extendNamed {cat : Catalog} {r : RegistryId} {name : String} {t : TypeId}
    (hfind : (cat.registryAt r).find? name = some (.type t))
    (hextendable : (cat.typeAt t).extendable = true) (fields : FieldList) :
    EndsIn (extendNamed r name fields) cat (cat.extended t fields.schema) () := by
  obtain ⟨words, hwords⟩ := Catalog.exists_shownKeysSorted (@isText_of_mem_schema fields)
  obtain ⟨hstate, hresult⟩ := Catalog.run_extend_of_extendable hextendable fields.schema
  unfold extendNamed
  refine EndsIn.get_bind ?_
  rw [hfind]
  refine EndsIn.get_bind ?_
  rw [if_pos hextendable]
  exact ⟨hstate, by rw [hresult, hwords]; rfl⟩

/-- From one catalog to the other the types of a registry were extended, each by the fields that are
given under its name. -/
structure ExtendsAll (cat cat' : Catalog) (r : RegistryId) (es : List (String × FieldList)) :
    Prop where
  types_length : cat'.types.length = cat.types.length
  registries_eq : cat'.registries = cat.registries
  extended : ∀ name t, (cat.registryAt r).find? name = some (.type t) →
    cat'.typeAt t = { cat.typeAt t with
      extensions := (cat.typeAt t).extensions.putAll (fieldsUnder es name).schema }
  others : ∀ t, (∀ name, (cat.registryAt r).find? name ≠ some (.type t)) →
    cat'.typeAt t = cat.typeAt t

section ExtendAll

variable {cat : Catalog} {r : RegistryId} {name : String} {t : TypeId} {fields : FieldList}

theorem isOrderly_extended (hcat : cat.IsOrderly r) (ht : t < cat.types.length) (fields : Schema) :
    (cat.extended t fields).IsOrderly r where
  registry := hcat.registry
  types name u hfind := by
    have hu := hcat.types name u hfind
    simpa [Catalog.extended, Catalog.updateType] using hu
  apart := hcat.apart
  distinct u := by
    rw [Catalog.typeAt_extended ht]
    split
    · exact (hcat.distinct t).putAll fields
    · exact hcat.distinct u

/-- An extension makes no difference to what can be extended. -/
theorem canExtend_extended_iff (ht : t < cat.types.length) (fields : Schema) :
    CanExtend (cat.extended t fields) r name ↔ CanExtend cat r name := by
  have hextendable (u : TypeId) :
      ((cat.extended t fields).typeAt u).extendable = (cat.typeAt u).extendable := by
    rw [Catalog.typeAt_extended ht]
    split
    · next h => rw [h]
    · rfl
  simp only [CanExtend, hextendable]
  rfl

/-- Extensions are made one after the other, up to the first that is refused. -/
theorem extendAll_cases (hcat : cat.IsOrderly r) (es : List (String × FieldList)) :
    ((∀ e ∈ es, CanExtend cat r e.1) ∧
        ∃ cat', EndsIn (extendAll r es) cat cat' () ∧ ExtendsAll cat cat' r es) ∨
      (¬ ∀ e ∈ es, CanExtend cat r e.1) ∧
        ∃ failure, ((extendAll r es).run cat).result = .error failure ∧
          failure.category = "ValueError" := by
  induction es generalizing cat with
  | nil =>
    refine .inl ⟨List.forall_mem_nil _, cat, .of_pure () cat, rfl, rfl, fun name t _ => ?_,
      fun t _ => rfl⟩
    rfl
  | cons e es ih =>
    obtain ⟨n, fields⟩ := e
    rw [List.forall_mem_cons]
    by_cases hcan : CanExtend cat r n
    · obtain ⟨t, hfind, hextendable⟩ := id hcan
      have ht := hcat.types n t hfind
      have hfirst := endsIn_extendNamed hfind hextendable fields
      have hrest (e : String × FieldList) := @canExtend_extended_iff cat r e.1 t ht fields.schema
      rcases ih (isOrderly_extended hcat ht fields.schema) with
        ⟨hall, cat', hends, hextends⟩ | ⟨hnot, failure, hfails, hcategory⟩
      · refine .inl ⟨⟨hcan, fun e he => (hrest e).mp (hall e he)⟩, cat', hfirst.bind hends, ?_⟩
        refine ⟨?_, hextends.registries_eq, fun name u hu => ?_, fun u hu => ?_⟩
        · rw [hextends.types_length]
          simp [Catalog.extended, Catalog.updateType]
        · rw [hextends.extended name u hu, Catalog.typeAt_extended ht, fieldsUnder_cons]
          by_cases hname : n = name
          · -- One name stands for one type, so this one is extended once more.
            subst hname
            obtain rfl : u = t := Factory.type.inj (Option.some.inj (hu.symm.trans hfind))
            rw [if_pos rfl, if_pos rfl, Entries.putAll_append]
          · have hother : u ≠ t := fun h => hname (hcat.apart n name t hfind (h ▸ hu))
            rw [if_neg hother, if_neg hname, List.nil_append]
        · have hother : u ≠ t := fun h => hu n (h ▸ hfind)
          rw [hextends.others u hu, Catalog.typeAt_extended ht, if_neg hother]
      · refine .inr ⟨fun h => hnot fun e he => (hrest e).mpr (h.2 e he), failure, ?_, hcategory⟩
        rw [extendAll, run_bind_ok hfirst.2, hfirst.1]
        exact hfails
    · obtain ⟨failure, hfails, hcategory⟩ := result_extendNamed_of_not hcan fields
      refine .inr ⟨fun h => hcan h.1, failure, ?_, hcategory⟩
      rw [extendAll, run_bind_error hfails]

end ExtendAll

/-! ### Files -/

/-- The definition of a name that stands after some files: that of the last file that defines it. -/
def definition? (files : List SchemaFile) (name : String) : Option SchemaDefinition :=
  last? (files.flatMap SchemaFile.schemas) name

/-- The fields by which files extend a name, in file order. -/
def extension (files : List SchemaFile) (name : String) : Schema :=
  (fieldsUnder (files.flatMap SchemaFile.extensions) name).schema

/-- A name that files must not extend: nothing is defined or registered under it, or what stands there in
the end is no type, or a type that may not be extended. -/
def Refuses (cat : Catalog) (r : RegistryId) (files : List SchemaFile) (name : String) : Prop :=
  match definition? files name with
  | some d => d.extendable = false
  | none =>
    match (cat.registryAt r).find? name with
    | some (.type t) => (cat.typeAt t).extendable = false
    | some _ | none => True

/-- From one catalog to the other a registry was filled from files. -/
structure Fills (cat cat' : Catalog) (r : RegistryId) (files : List SchemaFile) : Prop where
  has_iff : ∀ name, (cat'.registryAt r).has name = true ↔
    (cat.registryAt r).has name = true ∨ (definition? files name).isSome = true
  defined : ∀ name d, definition? files name = some d →
    ∃ t, (cat'.registryAt r).find? name = some (.type t) ∧ cat.types.length ≤ t ∧
      cat'.typeAt t = { d.type r name with extensions := Entries.putAll [] (extension files name) }
  kept : ∀ name, definition? files name = none →
    (cat'.registryAt r).find? name = (cat.registryAt r).find? name
  extended : ∀ name t, definition? files name = none →
    (cat.registryAt r).find? name = some (.type t) →
      cat'.typeAt t = { cat.typeAt t with
        extensions := (cat.typeAt t).extensions.putAll (extension files name) }
  others : ∀ t, t < cat.types.length →
    (∀ name, definition? files name = none → (cat.registryAt r).find? name ≠ some (.type t)) →
      cat'.typeAt t = cat.typeAt t
  registries : ∀ s, s ≠ r → cat'.registryAt s = cat.registryAt s

section Enter

variable {cat mid cat' : Catalog} {r : RegistryId} {files : List SchemaFile}

/-- What can be extended once everything is defined is what is not to be refused. -/
theorem canExtend_iff (hcat : cat.IsOrderly r)
    (hdefines : DefinesAll cat mid r (files.flatMap SchemaFile.schemas)) (name : String) :
    CanExtend mid r name ↔ ¬ Refuses cat r files name := by
  unfold CanExtend Refuses
  cases hd : definition? files name with
  | some d =>
    obtain ⟨t, hfind, -, htype⟩ := hdefines.defined name d hd
    simp [hfind, htype, SchemaDefinition.type]
  | none =>
    rw [hdefines.kept name hd]
    cases hfind : (cat.registryAt r).find? name with
    | none => simp
    | some factory =>
      cases factory with
      | type t => simp [hdefines.typeAt_eq t (hcat.types name t hfind)]
      | bound schema => simp
      | echo => simp

/-- What is defined and then extended is filled. -/
theorem fills_of_extendsAll (hcat : cat.IsOrderly r)
    (hdefines : DefinesAll cat mid r (files.flatMap SchemaFile.schemas))
    (hextends : ExtendsAll mid cat' r (files.flatMap SchemaFile.extensions)) :
    Fills cat cat' r files := by
  have hregistry (s : RegistryId) : cat'.registryAt s = mid.registryAt s := by
    unfold Catalog.registryAt
    rw [hextends.registries_eq]
  refine ⟨fun name => ?_, fun name d hd => ?_, fun name hnone => ?_, fun name t hnone hfind => ?_,
    fun t ht hfree => ?_, fun s hs => ?_⟩
  · rw [hregistry, Registry.has, Registry.has]
    cases hd : definition? files name with
    | some d =>
      obtain ⟨t, hfind, -⟩ := hdefines.defined name d hd
      simp [hfind]
    | none => simp [hdefines.kept name hd]
  · obtain ⟨t, hfind, ht, htype⟩ := hdefines.defined name d hd
    refine ⟨t, hregistry r ▸ hfind, ht, ?_⟩
    rw [hextends.extended name t hfind, htype]
    rfl
  · rw [hregistry, hdefines.kept name hnone]
  · have hmidfind := (hdefines.kept name hnone).trans hfind
    rw [hextends.extended name t hmidfind, hdefines.typeAt_eq t (hcat.types name t hfind)]
    rfl
  · -- A type that was there is extended only where its name is not taken over.
    have hunnamed : ∀ name, (mid.registryAt r).find? name ≠ some (.type t) := by
      intro name hfind
      cases hd : definition? files name with
      | some d =>
        obtain ⟨u, hu, hle, -⟩ := hdefines.defined name d hd
        obtain rfl : u = t := Factory.type.inj (Option.some.inj (hu.symm.trans hfind))
        exact absurd ht (Nat.not_lt.mpr hle)
      | none => exact hfree name hd ((hdefines.kept name hd).symm.trans hfind)
    rw [hextends.others t hunnamed, hdefines.typeAt_eq t ht]
  · rw [hregistry, hdefines.registryAt_eq s hs]

/-- Files are entered as a whole, or something in them is refused. -/
theorem enter_cases (hcat : cat.IsOrderly r)
    (hnames : ∀ file ∈ files, ∀ e ∈ file.schemas, e.1 ≠ "" ∧ Catalog.nameable e.1 = .ok ()) :
    ((∀ file ∈ files, ∀ e ∈ file.extensions, ¬ Refuses cat r files e.1) ∧
        ∃ cat', EndsIn (enter r files) cat cat' () ∧ Fills cat cat' r files) ∨
      (¬ ∀ file ∈ files, ∀ e ∈ file.extensions, ¬ Refuses cat r files e.1) ∧
        ∃ failure, ((enter r files).run cat).result = .error failure ∧
          failure.category = "ValueError" := by
  have hdefinitions : ∀ e ∈ files.flatMap SchemaFile.schemas,
      e.1 ≠ "" ∧ Catalog.nameable e.1 = .ok () := by
    intro e he
    obtain ⟨file, hfile, hmem⟩ := List.mem_flatMap.mp he
    exact hnames file hfile e hmem
  obtain ⟨mid, hdefine, hmid, hdefines⟩ := exists_defineAll hcat hdefinitions
  have hrefuses : (∀ e ∈ files.flatMap SchemaFile.extensions, CanExtend mid r e.1) ↔
      ∀ file ∈ files, ∀ e ∈ file.extensions, ¬ Refuses cat r files e.1 := by
    simp only [List.mem_flatMap, forall_exists_index, and_imp, canExtend_iff hcat hdefines]
    exact ⟨fun h file hfile e he => h e file hfile he, fun h e file hfile he => h file hfile e he⟩
  rw [← hrefuses]
  rcases extendAll_cases hmid (files.flatMap SchemaFile.extensions) with
    ⟨hall, cat', hends, hextends⟩ | ⟨hnot, failure, hfails, hcategory⟩
  · exact .inl ⟨hall, cat', hdefine.bind hends,
      fills_of_extendsAll hcat hdefines hextends⟩
  · refine .inr ⟨hnot, failure, ?_, hcategory⟩
    rw [enter, run_bind_ok hdefine.2, hdefine.1]
    exact hfails

/-- Once files are read, loading them is entering them. -/
theorem run_loadAll {tree : FileTree} {paths : List Path.Written}
    (h : paths.mapM (load tree) = .ok files) (r : RegistryId) (cat : Catalog) :
    ((loadAll tree paths r).run cat).state = ((enter r files).run cat).state ∧
      ((loadAll tree paths r).run cat).result = ((enter r files).run cat).result := by
  unfold loadAll
  rw [h, run_ofExcept_bind]
  cases hresult : ((enter r files).run cat).result with
  | error failure =>
    rw [run_bind_error hresult]
    exact ⟨rfl, rfl⟩
  | ok _ =>
    rw [run_bind_ok hresult]
    exact ⟨rfl, rfl⟩

end Enter

/-! ### The order of files -/

section Order

variable {cat cat₁ cat₂ : Catalog} {r : RegistryId} {files files' : List SchemaFile}

/-- Where no name is repeated, a name stands for what it was given. -/
theorem last?_eq_some_iff {ds : List (String × SchemaDefinition)} (h : (ds.map Prod.fst).Nodup)
    {name : String} {d : SchemaDefinition} : last? ds name = some d ↔ (name, d) ∈ ds := by
  unfold last?
  constructor
  · intro hsome
    obtain ⟨⟨n, d'⟩, he, rfl⟩ := Option.map_eq_some_iff.mp hsome
    obtain rfl : n = name := by simpa using List.find?_some he
    exact List.mem_reverse.mp (List.mem_of_find?_eq_some he)
  · intro hmem
    cases hfind : ds.reverse.find? fun e => e.1 = name with
    | none =>
      have hno := List.find?_eq_none.mp hfind (name, d) (List.mem_reverse.mpr hmem)
      simp at hno
    | some e =>
      have hname : e.1 = name := by simpa using List.find?_some hfind
      have he : e ∈ ds := List.mem_reverse.mp (List.mem_of_find?_eq_some hfind)
      rw [List.inj_on_of_nodup_map h he hmem hname]
      rfl

/-- The names that files define, each as often as it is defined. -/
def definedNames (files : List SchemaFile) : List String :=
  (files.flatMap SchemaFile.schemas).map Prod.fst

/-- The fields by which files extend names, each as often as it is given. -/
def extendedFields (files : List SchemaFile) : List (String × String) :=
  (files.flatMap SchemaFile.extensions).flatMap fun e => e.2.map fun field => (e.1, field.1)

theorem definition?_of_perm (hperm : files.Perm files') (hnames : (definedNames files).Nodup)
    (name : String) : definition? files name = definition? files' name := by
  have hdefinitions := hperm.flatMap_right SchemaFile.schemas
  have hnames' : (definedNames files').Nodup := (hdefinitions.map Prod.fst).nodup_iff.mp hnames
  refine Option.ext fun d => ?_
  rw [definition?, definition?, last?_eq_some_iff hnames, last?_eq_some_iff hnames',
    hdefinitions.mem_iff]

/-- The fields under a name are a part of all. -/
theorem filter_extendedFields (es : List (String × FieldList)) (name : String) :
    ((es.flatMap fun e => e.2.map fun field => (e.1, field.1)).filter fun p => p.1 = name) =
      (fieldsUnder es name).map fun field => (name, field.1) := by
  induction es with
  | nil => rfl
  | cons e es ih =>
    obtain ⟨n, fields⟩ := e
    simp only [fieldsUnder] at ih ⊢
    by_cases h : n = name <;>
      simp [h, ih, List.filter_map, Function.comp_def, List.filter_true]

theorem distinct_extension (h : (extendedFields files).Nodup) (name : String) :
    (extension files name).Distinct := by
  have hpart := h.filter fun p => p.1 = name
  rw [extendedFields, filter_extendedFields] at hpart
  refine List.pairwise_map.mpr ((List.pairwise_map.mp hpart).imp fun {f g} hne => ?_)
  simpa [Key.same, Key.canon] using hne

theorem extension_perm (hperm : files.Perm files') (name : String) :
    (extension files name).Perm (extension files' name) := by
  have hextensions := hperm.flatMap_right SchemaFile.extensions
  exact ((hextensions.filter _).flatMap_right Prod.snd).map _

/-- What a type declares once its extensions are extended. -/
theorem find?_effectiveSchema (t : RecordType) {start more : Schema} (hstart : start.Distinct)
    (hmore : more.Distinct) (key : Key) :
    ({ t with extensions := start.putAll more } : RecordType).effectiveSchema.find? key =
      ((more.find? key).or (start.find? key)).or (t.baseSchema.find? key) := by
  rw [RecordType.effectiveSchema, Entries.find?_putAll_of_distinct (hstart.putAll more),
    Entries.find?_putAll_of_distinct hmore]

/-- Where no field of a name is given twice, the order in which files extend a type makes no difference
to what it declares. -/
theorem find?_extended_of_perm (hperm : files.Perm files') (hfields : (extendedFields files).Nodup)
    (t : RecordType) {name : String} {start : Schema} (hstart : start.Distinct) (key : Key) :
    ({ t with extensions := start.putAll (extension files name) } :
        RecordType).effectiveSchema.find? key =
      ({ t with extensions := start.putAll (extension files' name) } :
        RecordType).effectiveSchema.find? key := by
  have hfields' : (extendedFields files').Nodup :=
    ((hperm.flatMap_right SchemaFile.extensions).flatMap_right _).nodup_iff.mp hfields
  rw [find?_effectiveSchema t hstart (distinct_extension hfields name),
    find?_effectiveSchema t hstart (distinct_extension hfields' name),
    (distinct_extension hfields name).find?_of_perm (extension_perm hperm name)]

/-- Two registries know the same names, and for each the same fields. -/
structure SameFields (cat₁ cat₂ : Catalog) (r : RegistryId) : Prop where
  has_eq : ∀ name, (cat₁.registryAt r).has name = (cat₂.registryAt r).has name
  fields_eq : ∀ name t, (cat₁.registryAt r).find? name = some (.type t) →
    ∃ u, (cat₂.registryAt r).find? name = some (.type u) ∧
      ∀ key, (cat₁.schemaOf t).find? key = (cat₂.schemaOf u).find? key

section Filled

variable (hcat : cat.IsOrderly r) (hperm : files.Perm files') (hnames : (definedNames files).Nodup)
  (hfields : (extendedFields files).Nodup) (h₁ : Fills cat cat₁ r files)
  (h₂ : Fills cat cat₂ r files')

include hcat hperm hnames hfields h₁ h₂

/-- The order of the files makes no difference to the types that were there before. -/
theorem find?_schemaOf_of_perm {t : TypeId} (ht : t < cat.types.length) (key : Key) :
    (cat₁.schemaOf t).find? key = (cat₂.schemaOf t).find? key := by
  have hdefinition := definition?_of_perm hperm hnames
  rw [Catalog.schemaOf, Catalog.schemaOf]
  by_cases hnamed : ∃ name, definition? files name = none ∧
      (cat.registryAt r).find? name = some (.type t)
  · obtain ⟨name, hnone, hfind⟩ := hnamed
    rw [h₁.extended name t hnone hfind, h₂.extended name t (hdefinition name ▸ hnone) hfind]
    exact find?_extended_of_perm hperm hfields _ (hcat.distinct t) key
  · have hfree : ∀ name, definition? files name = none →
        (cat.registryAt r).find? name ≠ some (.type t) :=
      fun name hnone hfind => hnamed ⟨name, hnone, hfind⟩
    rw [h₁.others t ht hfree, h₂.others t ht fun name hnone => hfree name (hdefinition name ▸ hnone)]

/-- Nor does it to what stands under any name. -/
theorem sameFields_of_perm : SameFields cat₁ cat₂ r := by
  have hdefinition := definition?_of_perm hperm hnames
  refine ⟨fun name => ?_, fun name t hfind => ?_⟩
  · rw [Bool.eq_iff_iff, h₁.has_iff, h₂.has_iff, hdefinition]
  · cases hd : definition? files name with
    | some d =>
      obtain ⟨t', ht', -, htype⟩ := h₁.defined name d hd
      obtain ⟨u, hu, -, hother⟩ := h₂.defined name d (hdefinition name ▸ hd)
      obtain rfl : t' = t := Factory.type.inj (Option.some.inj (ht'.symm.trans hfind))
      refine ⟨u, hu, fun key => ?_⟩
      rw [Catalog.schemaOf, Catalog.schemaOf, htype, hother]
      exact find?_extended_of_perm hperm hfields _ List.Pairwise.nil key
    | none =>
      rw [h₁.kept name hd] at hfind
      refine ⟨t, (h₂.kept name (hdefinition name ▸ hd)).trans hfind, fun key => ?_⟩
      exact find?_schemaOf_of_perm hcat hperm hnames hfields h₁ h₂ (hcat.types name t hfind) key

end Filled

end Order

/-! ### Loading -/

section Loading

variable {cat : Catalog} {r : RegistryId} {files files' : List SchemaFile}

theorem refuses_of_perm (hperm : files.Perm files') (hnames : (definedNames files).Nodup)
    (name : String) : Refuses cat r files name ↔ Refuses cat r files' name := by
  unfold Refuses
  rw [definition?_of_perm hperm hnames]

/-- Files are entered where nothing in them is refused, and then they fill the registry. -/
theorem enter_eq_ok_iff (hcat : cat.IsOrderly r)
    (hnames : ∀ file ∈ files, ∀ e ∈ file.schemas, e.1 ≠ "" ∧ Catalog.nameable e.1 = .ok ()) :
    (((enter r files).run cat).result = .ok () ↔
      ∀ file ∈ files, ∀ e ∈ file.extensions, ¬ Refuses cat r files e.1) ∧
    (((enter r files).run cat).result = .ok () →
      Fills cat ((enter r files).run cat).state r files) := by
  rcases enter_cases hcat hnames with ⟨hall, cat', ⟨hstate, hresult⟩, hfills⟩ |
    ⟨hnot, failure, hfails, -⟩
  · exact ⟨iff_of_true hresult hall, fun _ => hstate.symm ▸ hfills⟩
  · rw [hfails]
    exact ⟨iff_of_false (by simp) hnot, fun h => by cases h⟩

/-- Files whose names can be names of types are entered into a registry exactly if nothing that they
extend is refused. Then the registry knows what it knew before and what the files define. What is
defined stands as the last file to define it has it, with the extensions that any file makes, in file
order; what is not is extended on top of what it was extended by. Where no name is defined twice and no
field of a name given twice, the order of the files makes no difference to the outcome, to the names,
or to any field of any type. -/
theorem files_fill_registry (hcat : cat.IsOrderly r)
    (hnames : ∀ file ∈ files, ∀ e ∈ file.schemas, e.1 ≠ "" ∧ Catalog.nameable e.1 = .ok ()) :
    ((∃ failure, ((enter r files).run cat).result = .error failure) ↔
      ∃ file ∈ files, ∃ e ∈ file.extensions, Refuses cat r files e.1) ∧
    (∀ failure, ((enter r files).run cat).result = .error failure →
      failure.category = "ValueError") ∧
    (((enter r files).run cat).result = .ok () →
      Fills cat ((enter r files).run cat).state r files) ∧
    (∀ tree paths, paths.mapM (load tree) = .ok files →
      ((loadAll tree paths r).run cat).state = ((enter r files).run cat).state ∧
        ((loadAll tree paths r).run cat).result = ((enter r files).run cat).result) ∧
    ∀ files' : List SchemaFile, files.Perm files' → (definedNames files).Nodup →
      (extendedFields files).Nodup →
        (((enter r files).run cat).result = .ok () ↔ ((enter r files').run cat).result = .ok ()) ∧
        (((enter r files).run cat).result = .ok () →
          SameFields ((enter r files).run cat).state ((enter r files').run cat).state r ∧
          ∀ t, t < cat.types.length → ∀ key,
            (((enter r files).run cat).state.schemaOf t).find? key =
              (((enter r files').run cat).state.schemaOf t).find? key) := by
  refine ⟨?_, fun failure hfailure => ?_, (enter_eq_ok_iff hcat hnames).2,
    fun tree paths hread => run_loadAll hread r cat, fun files' hperm hdefined hfields => ?_⟩
  · rcases enter_cases hcat hnames with ⟨hall, cat', ⟨-, hresult⟩, -⟩ | ⟨hnot, hfails⟩
    · refine iff_of_false ?_ ?_
      · rintro ⟨failure, hfailure⟩
        rw [hresult] at hfailure
        cases hfailure
      · rintro ⟨file, hfile, e, he, hrefuses⟩
        exact hall file hfile e he hrefuses
    · refine iff_of_true ⟨_, hfails.choose_spec.1⟩ ?_
      simpa only [not_forall, not_not, exists_prop] using hnot
  · rcases enter_cases hcat hnames with ⟨-, cat', ⟨-, hresult⟩, -⟩ | ⟨-, other, hfails, hcategory⟩
    · rw [hresult] at hfailure
      cases hfailure
    · rw [hfails] at hfailure
      rwa [← Except.error.inj hfailure]
  · have hnames' : ∀ file ∈ files', ∀ e ∈ file.schemas,
        e.1 ≠ "" ∧ Catalog.nameable e.1 = .ok () :=
      fun file hfile => hnames file (hperm.mem_iff.mpr hfile)
    obtain ⟨hok, hfills⟩ := enter_eq_ok_iff hcat hnames
    obtain ⟨hok', hfills'⟩ := enter_eq_ok_iff hcat hnames'
    have hsame : ((enter r files).run cat).result = .ok () ↔
        ((enter r files').run cat).result = .ok () := by
      rw [hok, hok']
      simp only [hperm.mem_iff, refuses_of_perm hperm hdefined]
    refine ⟨hsame, fun hentered => ?_⟩
    have h₁ := hfills hentered
    have h₂ := hfills' (hsame.mp hentered)
    exact ⟨sameFields_of_perm hcat hperm hdefined hfields h₁ h₂,
      fun t ht key => find?_schemaOf_of_perm hcat hperm hdefined hfields h₁ h₂ ht key⟩

end Loading

/-- A depot of players, who have got hit points, and of items, which will be defined anew. -/
def depot : Catalog where
  types := [.root,
    { className := "Item", schemaName := "Item", baseSchema := [(.str "old", .str "int")],
      extensions := [(.str "worn", .str "bool")], registry := some 0 },
    { className := "Player", schemaName := "Player", baseSchema := [(.str "name", .str "String")],
      extensions := [(.str "hp", .str "int")], registry := some 0 }]
  registries := [[("Item", .type 1), ("Player", .type 2), ("Echo", .echo)]]

/-- Two files: the first extends the items that the second one defines. -/
def depotFiles : List SchemaFile :=
  [{ schemas := [("Note", { fields := [("text", "String")] })],
     extensions := [("Item", [("color", "String?")]), ("Player", [("mana", "int?")])] },
   { schemas := [("Item", { fields := [("id", "String")] })],
     extensions := [("Note", [("about", "Item")])] }]

theorem find?_depot (name : String) :
    (depot.registryAt 0).find? name =
      if "Item" = name then some (.type 1)
      else if "Player" = name then some (.type 2)
      else if "Echo" = name then some .echo else none := by
  change Registry.find? [("Item", .type 1), ("Player", .type 2), ("Echo", .echo)] name = _
  simp only [Registry.find?_cons]
  rfl

theorem isOrderly_depot : depot.IsOrderly 0 where
  registry := by decide
  types name t hfind := by
    rw [find?_depot] at hfind
    split_ifs at hfind <;> cases hfind <;> decide
  apart name other t hname hother := by
    rw [find?_depot] at hname hother
    split_ifs at hname hother <;> cases hname <;> cases hother <;> simp_all
  distinct
    | 0 => List.Pairwise.nil
    | 1 => List.pairwise_singleton ..
    | 2 => List.pairwise_singleton ..
    | _ + 3 => List.Pairwise.nil

/-- The items are those of the second file, in the color that the first one adds; the players keep what
they were extended by. The files may as well be read in the other order. -/
theorem files_fill_depot :
    ((enter 0 depotFiles).run depot).result = .ok () ∧
      (∃ t, (((enter 0 depotFiles).run depot).state.registryAt 0).find? "Item" = some (.type t) ∧
        (((enter 0 depotFiles).run depot).state.typeAt t).baseSchema = [(.str "id", .str "String")] ∧
        (((enter 0 depotFiles).run depot).state.typeAt t).extensions =
          [(.str "color", .str "String?")]) ∧
      (((enter 0 depotFiles).run depot).state.typeAt 2).extensions =
        [(.str "hp", .str "int"), (.str "mana", .str "int?")] ∧
      SameFields ((enter 0 depotFiles).run depot).state
        ((enter 0 depotFiles.reverse).run depot).state 0 := by
  have hnames : ∀ file ∈ depotFiles, ∀ e ∈ file.schemas,
      e.1 ≠ "" ∧ Catalog.nameable e.1 = .ok () := by decide +kernel
  obtain ⟨hfails, -, hfills, -, horder⟩ := files_fill_registry isOrderly_depot hnames
  have hentered : ((enter 0 depotFiles).run depot).result = .ok () := by decide +kernel
  have hfilled := hfills hentered
  obtain ⟨t, hfind, -, htype⟩ := hfilled.defined "Item" { fields := [("id", "String")] }
    (by decide +kernel)
  refine ⟨hentered, ⟨t, hfind, ?_, ?_⟩, ?_, ?_⟩
  · rw [htype]
    rfl
  · rw [htype]
    rfl
  · rw [hfilled.extended "Player" 2 (by decide +kernel) (find?_depot "Player")]
    rfl
  · exact ((horder depotFiles.reverse depotFiles.reverse_perm.symm (by decide +kernel)
      (by decide +kernel)).2 hentered).1

/-- A name that can be no type's name: half of a surrogate pair is part of it. -/
def brokenName : String := Text.ofPoints [0x41, 0xD800]

/-- So not all files are entered in which nothing is refused. -/
theorem not_entered_of_broken_name :
    ¬ ∀ (cat : Catalog) (r : RegistryId) (files : List SchemaFile), cat.IsOrderly r →
      (∀ file ∈ files, ∀ e ∈ file.schemas, e.1 ≠ "" ∧ '\x00' ∉ e.1.toList) →
      (∀ file ∈ files, ∀ e ∈ file.extensions, ¬ Refuses cat r files e.1) →
        ((enter r files).run cat).result = .ok () := by
  intro h
  have horderly : Catalog.IsOrderly { registries := [[]] } 0 := {
    registry := by decide
    types := fun name t hfind => by cases hfind
    apart := fun name other t hfind => by cases hfind
    distinct
      | 0 => List.Pairwise.nil
      | _ + 1 => List.Pairwise.nil }
  have hentered := h { registries := [[]] } 0
    [{ schemas := [(brokenName, { fields := [("a", "int")] })] }] horderly (by decide +kernel) (by simp)
  have hfails : ((enter 0 [{ schemas := [(brokenName, { fields := [("a", "int")] })] }]).run
      { registries := [[]] }).result.isOk = false := by decide +kernel
  rw [hentered] at hfails
  cases hfails

end SchemaFile

end TypedRecord
