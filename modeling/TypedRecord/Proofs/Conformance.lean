import TypedRecord.Record
import TypedRecord.Proofs.Nested

/-!
# TypedRecord.Proofs.Conformance

Which data a record type accepts.

A record is built by one recursion through copying, wrapping, building the records inside and
validating; a nested record that cannot be built leaves nothing behind but a mapping that the outer
validation will not admit. `Catalog.Conforms` says the same without building anything, by recursion
on the data: what each field of a type asks of the value in it, and of a mapping at a reference that
it conforms to the type referred to. Types may refer to each other in circles.

* `Descriptor.Fits`, `FitItems` and `FieldsFit` are the recursion, `Catalog.Conforms` is its step for
  a mapping and a type.
* `SettlesWell` is what the code asks of a value instead: that wrapping it comes to an end, and that
  what is left in its place matches. The lemmas at the end of this module say when it holds, for every
  kind of value at every form of descriptor.

The reserved field is never judged, but its value is wrapped like any other. Wrapping it can fail
where what is wrong inside cannot be reported, and then the record is not built although nothing that
counts is wrong with its data. The predicates therefore take what is asked of a reserved field as a
parameter: nothing (`anySide`), or that wrapping it ends (`Catalog.SideWraps`).
-/

namespace TypedRecord

/-! ### Plain data -/

mutual

/-- A value with nothing in it that is bound to a schema, and with one entry a key in its mappings. -/
def Value.IsPlain : Value → Prop
  | .list _ items | .tuple _ items => ArePlain items
  | .dict _ entries | .view _ entries => Entries.Distinct entries ∧ ArePlainEntries entries
  | .record _ _ _ | .reference _ => False
  | v => v.schema? = none

def ArePlain : List Value → Prop
  | [] => True
  | v :: vs => v.IsPlain ∧ ArePlain vs

def ArePlainEntries : List (Key × Value) → Prop
  | [] => True
  | (_, v) :: es => v.IsPlain ∧ ArePlainEntries es

end

mutual

/-- Plain values are whole. -/
theorem Value.IsPlain.isWhole : (v : Value) → v.IsPlain → v.IsWhole
  | .list _ items, h | .tuple _ items, h => ⟨trivial, ArePlain.areWhole items h⟩
  | .dict _ entries, h | .view _ entries, h => ⟨h.1, ArePlainEntries.areWhole entries h.2⟩
  | .record _ _ _, h | .reference _, h => h.elim
  | .atom _ _, _ | .buffer _ _, _ | .set _, _ => trivial

theorem ArePlain.areWhole : (items : List Value) → ArePlain items →
    ThroughoutItems Value.IsClear items
  | [], _ => trivial
  | v :: vs, h => ⟨Value.IsPlain.isWhole v h.1, ArePlain.areWhole vs h.2⟩

theorem ArePlainEntries.areWhole : (es : List (Key × Value)) → ArePlainEntries es →
    ThroughoutEntries Value.IsClear es
  | [], _ => trivial
  | (_, v) :: es, h => ⟨Value.IsPlain.isWhole v h.1, ArePlainEntries.areWhole es h.2⟩

end

/-- Whole data is copied, so that a record of it is built by preparing and judging a candidate. -/
theorem Catalog.answer_construct_of_whole {cat : Catalog} {t : TypeId} {mode : Mode} {setup : Setup}
    {es : Entries Value} (h : ThroughoutEntries Value.IsClear es) :
    (cat.construct t mode setup es).answer =
      (prepare cat mode setup.registry t es).answer >>= fun candidate =>
        (cat.judge t mode setup candidate).answer := by
  rw [Catalog.construct, Act.answer_bind, Act.answer_ofExcept, copyable_of_whole h]
  exact Act.answer_bind _ _

/-! ### Conformance -/

/-- What the name of a primitive asks of a kind: to be called so, in any case, or to be a whole number
where a floating-point number is asked for. -/
def Kind.Satisfies (k : Kind) (name : String) : Prop :=
  Text.sameFolded k.name name = true ∨ k = .int ∧ Text.sameFolded name "float" = true

/-- The descriptor of a field, where it is declared with one that parses. -/
def Catalog.declared? (cat : Catalog) (t : TypeId) (field : Key) : Option Descriptor :=
  ((cat.schemaOf t).find? field).bind fun declared => declared.descriptor.toOption

section Conforms

variable (cat : Catalog) (r : RegistryId) (mode : Mode) (side : TypeId → Value → Prop)

/-- What a type asks of a mapping, given that the values in it fit where they stand. A type without
fields asks for nothing. -/
def Catalog.ConformsWhere (t : TypeId) (entries : Entries Value) (fit : Prop) : Prop :=
  cat.schemaOf t = [] ∨
    (∀ f ∈ cat.schemaOf t, ∃ d, f.2.descriptor = .ok d ∧
      (f.1.same (cat.sideKey t) = true ∨ entries.has f.1 = false → d.nullable = true)) ∧
    fit ∧
    (mode = .strict →
      ∀ e ∈ entries, e.1.same (cat.sideKey t) = true ∨ (cat.schemaOf t).has e.1 = true)

mutual

/-- What a descriptor asks of a plain value: null where it is nullable, a sequence of fitting items at a
typed array, any sequence or mapping at the untyped ones, a mapping that conforms at a reference, and
a value of that kind at a primitive. -/
def Fits (d : Descriptor) : Value → Prop
  | .atom _ .nil => d.nullable = true
  | .list _ items | .tuple _ items =>
    match d with
    | .array element _ => FitItems element items
    | .named name _ => Descriptor.categoryOfName name = .untypedArray
  | .dict _ entries | .view _ entries =>
    match d with
    | .array _ _ => False
    | .named name _ =>
      Descriptor.categoryOfName name = .map ∨
        Descriptor.categoryOfName name = .reference ∧
          ∃ t, (cat.registryAt r).find? name = some (.type t) ∧
            cat.ConformsWhere mode t entries (FieldsFit t entries)
  | v =>
    match d with
    | .array _ _ => False
    | .named name _ => Descriptor.categoryOfName name = .primitive ∧ v.kind.Satisfies name

def FitItems (element : Descriptor) : List Value → Prop
  | [] => True
  | v :: vs => Fits element v ∧ FitItems element vs

/-- Whether the values of entries fit in the fields of a type. -/
def FieldsFit (t : TypeId) : List (Key × Value) → Prop
  | [] => True
  | (k, v) :: es =>
    (if k.same (cat.sideKey t) then side t v
      else ∀ d, cat.declared? t k = some d → Fits d v) ∧ FieldsFit t es

end

/-- Whether plain data conforms to a type, the mappings inside to the types of a registry. -/
def Catalog.Conforms (t : TypeId) (entries : Entries Value) : Prop :=
  cat.ConformsWhere mode t entries (FieldsFit cat r mode side t entries)

end Conforms

/-! ### The registries that this is about -/

/-- A key that is a text. -/
def Key.IsText (k : Key) : Prop := ∃ mark s, k = .atom mark (.str s)

/-- Texts that are not the same key are not the same text. -/
theorem nodup_plainText {α : Type} {es : Entries α} (htexts : ∀ e ∈ es, e.1.IsText)
    (hdistinct : es.Distinct) : (es.map fun e => e.1.plainText).Nodup := by
  refine List.pairwise_map.mpr (hdistinct.imp_of_mem fun {e f} he hf hne => ?_)
  obtain ⟨mark, s, hs⟩ := htexts e he
  obtain ⟨mark', s', hs'⟩ := htexts f hf
  rw [hs, hs'] at hne
  simpa [hs, hs', Key.plainText, Key.same, Key.canon] using hne

/-- A type that is registered under its own name and refers to others through the same registry. Its
schema is a mapping from texts to texts. -/
structure Catalog.Registers (cat : Catalog) (r : RegistryId) (name : String) (t : TypeId) :
    Prop where
  schemaName_eq : (cat.typeAt t).schemaName = name
  registryOf_eq : cat.registryOf t = some r
  distinct : Entries.Distinct (cat.schemaOf t)
  fields : ∀ f ∈ cat.schemaOf t, f.1.IsText
  texts : ∀ f ∈ cat.schemaOf t, ∃ mark s, f.2 = .atom mark (.str s)

/-- A registry that knows nothing but such types. -/
def Catalog.SelfContained (cat : Catalog) (r : RegistryId) : Prop :=
  ∀ name factory, (cat.registryAt r).find? name = some factory →
    ∃ t, factory = .type t ∧ cat.Registers r name t

/-- Nothing is asked of a reserved field. -/
def anySide (_ : TypeId) (_ : Value) : Prop := True

/-- Wrapping the value of a reserved field comes to an end. -/
def Catalog.SideWraps (cat : Catalog) (r : RegistryId) (mode : Mode) (t : TypeId) (v : Value) :
    Prop :=
  ∃ w, settledField cat mode (some r) t (cat.sideKey t) v = .ok w

namespace Catalog

variable {cat : Catalog} {r : RegistryId} {mode : Mode}

/-- What a self-contained registry finds under a name is registered so. -/
theorem SelfContained.registers (hr : cat.SelfContained r) {name : String} {t : TypeId}
    (hfind : (cat.registryAt r).find? name = some (.type t)) : cat.Registers r name t := by
  obtain ⟨t', heq, ht⟩ := hr name _ hfind
  obtain rfl := Factory.type.inj heq
  exact ht

/-- Where descriptors are texts, fields are wrapped by the descriptor that they are judged by. -/
theorem Registers.wrappingDescriptor?_eq {name : String} {t : TypeId}
    (ht : cat.Registers r name t) (field : Key) :
    cat.wrappingDescriptor? t field = .ok (cat.declared? t field) := by
  unfold wrappingDescriptor? declared?
  cases hfind : (cat.schemaOf t).find? field with
  | none => rfl
  | some declared =>
      obtain ⟨k, hmem, _⟩ := Entries.exists_mem_of_find? hfind
      obtain ⟨mark, s, rfl⟩ := ht.texts _ hmem
      rfl

/-- The names that references are checked against are those under which something is built. -/
theorem knows_known_iff (name : String) :
    knows (cat.known (some r)) name = true ↔ ∃ factory, (cat.registryAt r).find? name = some factory := by
  simp only [known, knows, Option.map_some, Registry.names, Registry.find?]
  induction cat.registryAt r with
  | nil => simp
  | cons e rest ih =>
      obtain ⟨n, f⟩ := e
      by_cases h : n = name
      · simp [h]
      · have hne : (name == n) = false := by simpa using fun heq => h heq.symm
        simpa [h, hne] using ih

theorem settledField_congr {t : TypeId} {field other : Key} (h : field.same other = true)
    (v : Value) :
    settledField cat mode (some r) t field v = settledField cat mode (some r) t other v := by
  simp only [settledField, wrappingDescriptor?, Entries.find?_congr h]

end Catalog

/-! ### One value at one descriptor -/

theorem categoryOfName_ne_array (name : String) : Descriptor.categoryOfName name ≠ .array := by
  unfold Descriptor.categoryOfName
  split
  · simp
  · split
    · simp
    · split <;> simp

theorem primitiveMatches_iff (k : Kind) (name : String) :
    primitiveMatches k.name name = true ↔ k.Satisfies name := by
  have hint : (k.name == "int") = decide (k = .int) := by cases k <;> decide
  simp [primitiveMatches, Kind.Satisfies, hint]

/-- The two containers are called by no name of a primitive. -/
theorem Kind.not_satisfies_of_container {k : Kind} (hk : k = .array ∨ k = .dictionary)
    {name : String} (hname : Descriptor.categoryOfName name = .primitive) : ¬ k.Satisfies name := by
  rintro (hsame | ⟨hint, _⟩)
  · unfold Descriptor.categoryOfName at hname
    rw [Text.sameFolded_comm] at hsame
    rcases hk with rfl | rfl
    · simp [Descriptor.arrayName, show Text.sameFolded name "Array" = true from hsame] at hname
    · have hmap : Text.sameFolded name "Dictionary" = true := hsame
      by_cases harray : Text.sameFolded name "Array" = true <;>
        simp [Descriptor.arrayName, Descriptor.mapName, harray, hmap] at hname
  · subst hint
    simp at hk

section Matching

variable {known : Option (List String)} {fresh : Bool} {v : Value}

/-- What a name asks of a value that is bound to no schema is asked of its kind. -/
theorem nameMatches_unbound (h : v.schema? = none) (name : String) :
    nameMatches known name v = true ↔
      match Descriptor.categoryOfName name with
      | .untypedArray => v.kind = .array
      | .map => v.kind = .dictionary
      | .primitive | .array => v.kind.Satisfies name
      | .reference => False := by
  unfold nameMatches
  rw [Value.kindName_of_unbound h]
  cases Descriptor.categoryOfName name <;> simp [h, primitiveMatches_iff]

theorem mismatch?_named_iff (hv : v.kind ≠ .nil) (name : String) (nullable : Bool) :
    mismatch? known (.named name nullable) v = none ↔ nameMatches known name v = true := by
  have hname : mismatch? known (.named name nullable) v = nameMismatch? known name nullable v := by
    cases v with
    | atom mark a => cases a <;> first | rfl | exact absurd rfl hv
    | _ => rfl
  rw [hname]
  simp [nameMismatch?]

@[simp] theorem mismatch?_settle_none (d : Descriptor) (v : Value) :
    mismatch? known d (settle fresh none v) = mismatch? known d v := by
  cases fresh with
  | false => rfl
  | true => exact mismatch?_copy known d v

end Matching

section Settling

variable {cat : Catalog} {r : RegistryId} {mode : Mode} {side : TypeId → Value → Prop}
  {fresh : Bool} {v : Value} {known : Option (List String)}

/-- Wrapping a value comes to an end, and what is left in its place matches. -/
def SettlesWell (cat : Catalog) (r : RegistryId) (mode : Mode) (fresh : Bool) (d : Descriptor)
    (v : Value) : Prop :=
  ∃ w, settled cat mode (some r) fresh d v = .ok w ∧ mismatch? (cat.known (some r)) d w = none

/-- What stands settles well where it matches. -/
theorem settlesWell_of_stands {d : Descriptor}
    (h : settled cat mode (some r) fresh d v = .ok (settle fresh none v)) :
    SettlesWell cat r mode fresh d v ↔ mismatch? (cat.known (some r)) d v = none := by
  simp [SettlesWell, h]

/-- What has no parts settles well where its kind fits. -/
theorem settlesWell_solid (hsolid : v.isSolid = true) (hplain : v.IsPlain) (d : Descriptor) :
    SettlesWell cat r mode fresh d v ↔ Fits cat r mode side d v := by
  have hstands : SettlesWell cat r mode fresh d v ↔ mismatch? (cat.known (some r)) d v = none := by
    simp [SettlesWell, settled_of_solid hsolid]
  rw [hstands]
  by_cases hnil : v.kind = .nil
  · cases v with
    | atom mark a =>
        cases a <;> simp [Value.kind] at hnil
        cases d <;> simp [mismatch?, Fits]
    | _ => simp [Value.kind] at hnil
  · have hunbound : v.schema? = none := by
      cases v with
      | record _ _ _ => exact hplain.elim
      | atom mark a => simpa [Value.IsPlain] using hplain
      | _ => rfl
    have hitems : v.items? = none := by
      cases v <;> first | rfl | simp [Value.isSolid] at hsolid
    cases d with
    | array element nullable =>
        have hfalse : ¬ Fits cat r mode side (.array element nullable) v := by
          cases v with
          | atom mark a => cases a <;> simp [Fits, Value.kind] at hnil ⊢
          | buffer _ _ | set _ => simp [Fits]
          | record _ _ _ => exact hplain.elim
          | _ => simp [Value.isSolid] at hsolid
        exact iff_of_false (mismatch?_array_of_no_items hitems hnil _ element nullable) hfalse
    | named name nullable =>
        have hcontainer : v.kind ≠ .array ∧ v.kind ≠ .dictionary := by
          cases v with
          | atom mark a => cases a <;> simp [Value.kind]
          | buffer _ _ | set _ | record _ _ _ => simp [Value.kind]
          | _ => simp [Value.isSolid] at hsolid
        have hfits : Fits cat r mode side (.named name nullable) v ↔
            Descriptor.categoryOfName name = .primitive ∧ v.kind.Satisfies name := by
          cases v with
          | atom mark a => cases a <;> simp [Fits, Value.kind] at hnil ⊢
          | buffer _ _ | set _ => simp [Fits]
          | record _ _ _ => exact hplain.elim
          | _ => simp [Value.isSolid] at hsolid
        rw [mismatch?_named_iff hnil, nameMatches_unbound hunbound, hfits]
        have := categoryOfName_ne_array name
        cases hcategory : Descriptor.categoryOfName name <;> simp_all

/-- A sequence at a name stands, and matches where the name is that of the untyped array. -/
theorem settlesWell_items_named {items : List Value} (h : v.items? = some items) (name : String)
    (nullable : Bool) :
    SettlesWell cat r mode fresh (.named name nullable) v ↔
      Descriptor.categoryOfName name = .untypedArray := by
  have hkind : v.kind = .array ∧ v.schema? = none := by
    cases v with
    | list _ _ | tuple _ _ => exact ⟨rfl, rfl⟩
    | _ => simp [Value.items?] at h
  rw [settlesWell_of_stands (settled_items_named h name nullable),
    mismatch?_named_iff (by simp [hkind.1]), nameMatches_unbound hkind.2, hkind.1]
  have := categoryOfName_ne_array name
  cases hcategory : Descriptor.categoryOfName name
  case primitive => simpa using Kind.not_satisfies_of_container (.inl rfl) hcategory
  all_goals simp_all

/-- A mapping never matches a typed array. -/
theorem not_settlesWell_entries_array {entries : Entries Value} (h : v.entries? = some entries)
    (element : Descriptor) (nullable : Bool) :
    ¬ SettlesWell cat r mode fresh (.array element nullable) v := by
  rw [settlesWell_of_stands (settled_entries_array h element nullable)]
  cases v with
  | dict _ _ | view _ _ => simp [mismatch?]
  | _ => simp [Value.entries?] at h

/-- A record of a type is built of some data and valid. -/
def Catalog.Builds (cat : Catalog) (t : TypeId) (mode : Mode) (setup : Setup)
    (entries : Entries Value) : Prop :=
  ∃ verdict r, (cat.construct t mode setup entries).answer = .ok (verdict, r) ∧
    verdict.valid = true

/-- As it stands a mapping matches the name of the untyped mapping only. -/
theorem mismatch?_entries_named {entries : Entries Value} (h : v.entries? = some entries)
    (known : Option (List String)) (name : String) (nullable : Bool) :
    mismatch? known (.named name nullable) v = none ↔ Descriptor.categoryOfName name = .map := by
  have hkind : v.kind = .dictionary ∧ v.schema? = none := by
    cases v with
    | dict _ _ | view _ _ => exact ⟨rfl, rfl⟩
    | _ => simp [Value.entries?] at h
  rw [mismatch?_named_iff (by simp [hkind.1]), nameMatches_unbound hkind.2, hkind.1]
  have := categoryOfName_ne_array name
  cases hcategory : Descriptor.categoryOfName name
  case primitive => simpa using Kind.not_satisfies_of_container (.inr rfl) hcategory
  all_goals simp_all

/-- A record of a registered type matches the name of the type. -/
theorem Catalog.Registers.mismatch?_toValue {name : String} {t : TypeId}
    (ht : cat.Registers r name t) (hfind : (cat.registryAt r).find? name = some (.type t))
    (href : Descriptor.categoryOfName name = .reference) {built : Record}
    (htype : built.header.type = cat.typeName t) (nullable : Bool) :
    mismatch? (cat.known (some r)) (.named name nullable) (built.toValue none) = none := by
  have hschema : (built.toValue none).schema? = some name := by
    simp only [Record.toValue, Value.schema?, htype, Catalog.typeName, ht.schemaName_eq]
  have hknown : knows (cat.known (some r)) name = true :=
    (Catalog.knows_known_iff name).mpr ⟨_, hfind⟩
  rw [mismatch?_named_iff (by simp [Record.toValue, Value.kind])]
  simp [nameMatches, href, hknown, hschema]

/-- A mapping settles well at the name of a type exactly if a record of that type can be built of it. -/
theorem settlesWell_build {entries : Entries Value} (h : v.entries? = some entries) {name : String}
    (href : Descriptor.categoryOfName name = .reference) {t : TypeId}
    (ht : cat.Registers r name t) (hfind : (cat.registryAt r).find? name = some (.type t))
    (nullable : Bool) :
    SettlesWell cat r mode fresh (.named name nullable) v ↔
      cat.Builds t mode (cat.defaultSetup t) entries := by
  have hwrapping := cat.wrapping?_named (some r) name nullable
  rw [if_pos href] at hwrapping
  simp only [Option.bind_some, hfind, Option.map_some] at hwrapping
  have hbuild := @answer_wrap?_build cat mode (some r) fresh _ _ _ _ _ hwrapping h
  constructor
  · rintro ⟨w, hw, hmatch⟩
    simp only [settled, hbuild] at hw
    cases hout : (cat.construct t mode (cat.defaultSetup t) entries).answer with
    | error failure => rw [hout] at hw; cases hw
    | ok out =>
        obtain ⟨verdict, built⟩ := out
        obtain ⟨_, _, hjudged⟩ := Catalog.judged_of_construct hout
        cases hvalid : verdict.valid with
        | true => exact ⟨verdict, built, hout, hvalid⟩
        | false =>
            -- The record is dropped, and the mapping that stays matches no reference.
            rw [hout] at hw
            simp only [bind, Except.bind, Except.map, hjudged.valid_eq, hvalid,
              Bool.false_eq_true, if_false, Except.ok.injEq] at hw
            subst hw
            rw [mismatch?_settle_none, mismatch?_entries_named h, href] at hmatch
            cases hmatch
  · rintro ⟨verdict, built, hout, hvalid⟩
    obtain ⟨_, _, hjudged⟩ := Catalog.judged_of_construct hout
    refine ⟨built.toValue none, ?_, ht.mismatch?_toValue hfind href hjudged.type_eq nullable⟩
    simp only [settled, hbuild, hout]
    simp [bind, Except.bind, Except.map, hjudged.valid_eq, hvalid, settle]

/-- A mapping settles well at the name of the untyped mapping, and at the name of a type that a record
can be built of it. -/
theorem settlesWell_entries_named (hr : cat.SelfContained r) {entries : Entries Value}
    (h : v.entries? = some entries) (name : String) (nullable : Bool) :
    SettlesWell cat r mode fresh (.named name nullable) v ↔
      Descriptor.categoryOfName name = .map ∨
        Descriptor.categoryOfName name = .reference ∧
          ∃ t, (cat.registryAt r).find? name = some (.type t) ∧
            cat.Builds t mode (cat.defaultSetup t) entries := by
  have hmatches := mismatch?_entries_named h (cat.known (some r)) name nullable
  have hwrapping := cat.wrapping?_named (some r) name nullable
  by_cases href : Descriptor.categoryOfName name = .reference
  · rw [if_pos href] at hwrapping
    cases hfind : (cat.registryAt r).find? name with
    | none =>
        simp only [Option.bind_some, hfind, Option.map_none] at hwrapping
        rw [settlesWell_of_stands (settled_of_none hwrapping v), hmatches]
        simp [href]
    | some factory =>
        obtain ⟨t, rfl, ht⟩ := hr name factory hfind
        rw [settlesWell_build h href ht hfind]
        simp [href]
  · rw [if_neg href] at hwrapping
    rw [settlesWell_of_stands (settled_of_none hwrapping v), hmatches]
    simp [href]

end Settling

end TypedRecord
