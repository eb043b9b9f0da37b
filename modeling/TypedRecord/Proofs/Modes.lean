import Mathlib.Data.List.Forall2
import TypedRecord.Proofs.Acceptance

/-!
# TypedRecord.Proofs.Modes

What strict mode asks beyond loose mode.

The mode goes into the records inside a record, where it may decide whether there is a record at all: a
mapping that the nested type rejects stays a mapping. So the two modes are compared value by value.
Where one of them leaves something that matches, the other one does too, and what they leave is
interchangeable: it has one plain form and matches the same descriptors. Strict mode asks for declared
keys first (`settlesAlike_of_declared`), and where it leaves something that matches, it has seen no
others (`allDeclared_of_settled`).
-/

namespace TypedRecord

/-! ### Declared keys -/

/-- No two entries of a mapping have the same key. -/
def Value.HasDistinctKeys : Value → Prop
  | .dict _ entries | .view _ entries => Entries.Distinct entries
  | _ => True

section Declared

variable (cat : Catalog)

/-- The name of a record type where a registry resolves it. -/
def Catalog.RefersTo (registry : Option RegistryId) (name : String) (t : TypeId) : Prop :=
  Descriptor.categoryOfName name = .reference ∧
    ∃ r, registry = some r ∧ (cat.registryAt r).find? name = some (.type t)

/-- All keys of a mapping but the reserved field are declared by a type. A type without fields asks for
nothing. -/
def Catalog.DeclaresKeys (t : TypeId) (entries : Entries Value) : Prop :=
  cat.schemaOf t = [] ∨
    ∀ k ∈ Entries.keys entries, k.same (cat.sideKey t) = true ∨ (cat.schemaOf t).has k = true

mutual

/-- Every mapping in a value that stands where its descriptor refers to a record type, and every
mapping that stands so in the fields of that type, has no keys but declared ones. -/
def AllDeclared (registry : Option RegistryId) (d : Descriptor) : Value → Prop
  | .list _ items | .tuple _ items =>
    match d with
    | .array element _ => AllDeclaredItems registry element items
    | .named _ _ => True
  | .dict _ entries | .view _ entries =>
    match d with
    | .array _ _ => True
    | .named name _ =>
      ∀ t, cat.RefersTo registry name t → cat.DeclaresKeys t entries ∧ AllDeclaredFields t entries
  | _ => True

def AllDeclaredItems (registry : Option RegistryId) (element : Descriptor) : List Value → Prop
  | [] => True
  | v :: vs => AllDeclared registry element v ∧ AllDeclaredItems registry element vs

def AllDeclaredFields (t : TypeId) : List (Key × Value) → Prop
  | [] => True
  | (k, v) :: es =>
    (∀ d, cat.declared? t k = some d → AllDeclared (cat.registryOf t) d v) ∧ AllDeclaredFields t es

end

/-- Data of a type has no keys but declared ones, at any depth. -/
def Catalog.DeclaresThroughout (t : TypeId) (entries : Entries Value) : Prop :=
  cat.DeclaresKeys t entries ∧ AllDeclaredFields cat t entries

/-- A type does not declare its reserved field. -/
def Catalog.LeavesReserved (t : TypeId) : Prop := (cat.schemaOf t).has (cat.sideKey t) = false

/-- No type that a registry builds declares its reserved field. -/
def Catalog.RegistriesLeaveReserved : Prop :=
  ∀ r name t, (cat.registryAt r).find? name = some (.type t) → cat.LeavesReserved t

end Declared

/-! ### Interchangeable values -/

/-- Two values that have one plain form and match the same descriptors. -/
structure Value.Interchangeable (v w : Value) : Prop where
  plain_eq : v.plain = w.plain
  mismatch_iff : ∀ known d, mismatch? known d v = none ↔ mismatch? known d w = none

/-- Entries under the same keys, with interchangeable values. -/
def InterchangeableEntries : Entries Value → Entries Value → Prop :=
  List.Forall₂ fun e f => e.1 = f.1 ∧ e.2.Interchangeable f.2

namespace Value.Interchangeable

theorem refl (v : Value) : v.Interchangeable v := ⟨rfl, fun _ _ => Iff.rfl⟩

/-- What a name asks of a value is asked of its kind and of the schema it is bound to. -/
theorem named_iff {v w : Value} (hkind : v.kind = w.kind) (hschema : v.schema? = w.schema?)
    (hv : v.kind ≠ .nil) (known : Option (List String)) (name : String) (nullable : Bool) :
    mismatch? known (.named name nullable) v = none ↔
      mismatch? known (.named name nullable) w = none := by
  rw [mismatch?_named_iff hv, mismatch?_named_iff (hkind ▸ hv)]
  simp only [nameMatches, hkind, hschema, Value.kindName]

theorem list {items items' : List Value} (h : List.Forall₂ Value.Interchangeable items items')
    (mark mark' : Mark) : (Value.list mark items).Interchangeable (.list mark' items') := by
  constructor
  · simp only [Value.plain]
    congr 1
    induction h with
    | nil => rfl
    | cons hw _ ih => simp only [plainItems, hw.plain_eq, ih]
  · intro known d
    cases d with
    | named name nullable => exact named_iff rfl rfl (by simp [Value.kind]) known name nullable
    | array element nullable =>
      rw [mismatch?_array_iff rfl, mismatch?_array_iff rfl]
      induction h with
      | nil => simp
      | cons hw _ ih => rw [List.forall_mem_cons, List.forall_mem_cons, hw.mismatch_iff, ih]

theorem record {header header' : Header} {data data' : Entries Value}
    (hschema : header.type.schemaName = header'.type.schemaName)
    (h : InterchangeableEntries data data') (mark mark' : Mark) :
    (Value.record mark header data).Interchangeable (.record mark' header' data') := by
  constructor
  · simp only [Value.plain]
    congr 1
    induction h with
    | nil => rfl
    | @cons e f _ _ hw _ ih =>
      obtain ⟨hkey, hvalue⟩ := hw
      simp only [plainEntries, hkey, hvalue.plain_eq, ih]
  · intro known d
    cases d with
    | named name nullable =>
      have hbound : (Value.record mark header data).schema? =
          (Value.record mark' header' data').schema? := congrArg some hschema
      refine named_iff ?_ hbound ?_ known name nullable
      · rfl
      · simp [Value.kind]
    | array element nullable => simp [mismatch?]

end Value.Interchangeable

namespace InterchangeableEntries

variable {es fs : Entries Value}

theorem keys_eq (h : InterchangeableEntries es fs) : Entries.keys es = Entries.keys fs := by
  induction h with
  | nil => rfl
  | cons hw _ ih => simpa [Entries.keys, hw.1] using ih

theorem plain_eq (h : InterchangeableEntries es fs) : plainEntries es = plainEntries fs :=
  have hrecords : (Value.record none default es).Interchangeable (.record none default fs) :=
    .record rfl h none none
  (Value.dict.inj hrecords.plain_eq).2

/-- What is found under a key in one of them has its counterpart in the other. -/
theorem find?_cases (h : InterchangeableEntries es fs) (key : Key) :
    (es.find? key = none ∧ fs.find? key = none) ∨
      ∃ v w, es.find? key = some v ∧ fs.find? key = some w ∧ v.Interchangeable w := by
  induction h with
  | nil => exact .inl ⟨rfl, rfl⟩
  | @cons e f _ _ hw _ ih =>
    obtain ⟨k, v⟩ := e
    obtain ⟨k', w⟩ := f
    obtain ⟨rfl, hvalue⟩ := hw
    by_cases hk : k.same key = true
    · exact .inr ⟨v, w, by simp [hk], by simp [hk], hvalue⟩
    · simpa [hk] using ih

/-- A field is in order in both of them or in neither. -/
theorem fieldInOrder_iff (h : InterchangeableEntries es fs) (cat : Catalog) (t : TypeId)
    (known : Option (List String)) (field : Key) (declared : Value) :
    FieldInOrder known (cat.visible t es) field declared ↔
      FieldInOrder known (cat.visible t fs) field declared := by
  unfold FieldInOrder
  refine exists_congr fun d => and_congr_right fun _ => ?_
  rw [cat.find?_visible, cat.find?_visible]
  by_cases hside : field.same (cat.sideKey t) = true
  · simp [hside]
  · rcases h.find?_cases field with ⟨hes, hfs⟩ | ⟨v, w, hes, hfs, hvalue⟩
    · simp [hside, hes, hfs]
    · simp [hside, hes, hfs, hvalue.mismatch_iff]

end InterchangeableEntries

section Modes

variable {cat : Catalog} {registry : Option RegistryId} {fresh : Bool} {mode mode' : Mode}
  {t : TypeId} {setup : Setup} {es candidate : Entries Value}

/-! ### Values that stand -/

mutual

/-- A value that matches as it is holds no mapping at a reference. -/
theorem allDeclared_of_matches {known : Option (List String)} :
    (d : Descriptor) → (v : Value) → mismatch? known d v = none → AllDeclared cat registry d v
  | .named _ _, .list _ _, _ | .named _ _, .tuple _ _, _ => trivial
  | .array element nullable, .list _ items, h | .array element nullable, .tuple _ items, h =>
      allDeclaredItems_of_match element items ((mismatch?_array_iff rfl known element nullable).mp h)
  | .array _ _, .dict _ _, _ | .array _ _, .view _ _, _ => trivial
  | .named name nullable, .dict _ entries, h | .named name nullable, .view _ entries, h => by
      intro t ht
      have hschema := schema?_of_mismatch? ht.1 (by simp [Value.kind]) h
      cases hschema
  | _, .atom _ _, _ | _, .buffer _ _, _ | _, .set _, _ | _, .record _ _ _, _
  | _, .reference _, _ => trivial

theorem allDeclaredItems_of_match {known : Option (List String)} (element : Descriptor) :
    (items : List Value) → (∀ v ∈ items, mismatch? known element v = none) →
      AllDeclaredItems cat registry element items
  | [], _ => trivial
  | v :: vs, h => by
      obtain ⟨hv, hvs⟩ := List.forall_mem_cons.mp h
      exact ⟨allDeclared_of_matches element v hv, allDeclaredItems_of_match element vs hvs⟩

end

/-! ### Records built of a mapping -/

namespace Catalog

/-- A record of a type is built of a mapping by way of a candidate. -/
structure BuiltOf (cat : Catalog) (t : TypeId) (mode : Mode) (setup : Setup)
    (es candidate : Entries Value) : Prop where
  copyable : copyable es = .ok ()
  prepared : (prepare cat mode setup.registry t es).answer = .ok candidate
  admitted : cat.schemaOf t = [] ∨ cat.Admits t setup.validator mode candidate

theorem builtOf_of_construct {verdict : Verdict} {built : Record}
    (h : (cat.construct t mode setup es).answer = .ok (verdict, built))
    (hvalid : verdict.valid = true) : cat.BuiltOf t mode setup es built.data := by
  obtain ⟨hcopyable, candidate, hcandidate, hout⟩ := answer_construct_eq_ok.mp h
  have hdata : built.data = candidate := by rw [(judged_of_judge hout).data_eq, if_pos hvalid]
  rw [hdata]
  exact ⟨hcopyable, hcandidate, (judge_valid_iff ..).mp ⟨verdict, built, hout, hvalid⟩⟩

theorem BuiltOf.exists_construct (h : cat.BuiltOf t mode setup es candidate) :
    ∃ verdict built, (cat.construct t mode setup es).answer = .ok (verdict, built) ∧
      verdict.valid = true ∧ built.header.valid = true ∧ built.header.type = cat.typeName t ∧
      built.data = candidate := by
  obtain ⟨verdict, built, hout, hvalid⟩ := (judge_valid_iff ..).mpr h.admitted
  have hjudged := judged_of_judge hout
  refine ⟨verdict, built, ?_, hvalid, hjudged.valid_eq.trans hvalid, hjudged.type_eq, ?_⟩
  · exact answer_construct_eq_ok.mpr ⟨h.copyable, candidate, h.prepared, hout⟩
  · rw [hjudged.data_eq, if_pos hvalid]

/-- A setup by which a type's own registry resolves references, and everything is looked at. -/
structure IsOwnSetup (cat : Catalog) (t : TypeId) (setup : Setup) : Prop where
  registry : setup.registry = cat.registryOf t
  validator : setup.validator.registry = cat.registryOf t
  enabled : setup.validator.enabled = true

theorem isOwnSetup_default (cat : Catalog) (t : TypeId) : cat.IsOwnSetup t (cat.defaultSetup t) :=
  ⟨rfl, rfl, rfl⟩

theorem isOwnSetup_setupFor (cat : Catalog) (t : TypeId) (sink : Sink) :
    cat.IsOwnSetup t (cat.setupFor t none none sink) := ⟨rfl, rfl, rfl⟩

/-- The values of a candidate match where they are declared. -/
def FieldsMatch (cat : Catalog) (t : TypeId) (candidate : Entries Value) : Prop :=
  ∀ e ∈ candidate, ∀ d, cat.declared? t e.1 = some d →
    mismatch? (cat.known (cat.registryOf t)) d e.2 = none

/-- Where the reserved field is not declared, what a record was built of matches in all its fields. -/
theorem BuiltOf.fieldsMatch (h : cat.BuiltOf t mode setup es candidate)
    (hsetup : cat.IsOwnSetup t setup) (hdistinct : Entries.Distinct es)
    (hreserved : cat.LeavesReserved t) :
    cat.FieldsMatch t candidate := by
  intro e he d hd
  obtain ⟨f, hf, hsame, hdescriptor⟩ := exists_mem_of_declared? hd
  have hdeclares : cat.schemaOf t ≠ [] := List.ne_nil_of_mem hf
  have hadmits := h.admitted.resolve_left hdeclares
  rw [admits_iff, hsetup.enabled, hsetup.validator] at hadmits
  obtain ⟨d', hd', hfield⟩ := (hadmits.resolve_left (by simp)).2.1 f hf
  obtain rfl : d' = d := by rw [hdescriptor] at hd'; exact (Except.ok.inj hd').symm
  have hside : f.1.same (cat.sideKey t) = false := by
    rw [Bool.eq_false_iff]
    intro hside
    have hhas : (cat.schemaOf t).has (cat.sideKey t) = true :=
      Entries.has_iff.mpr ⟨f.1, List.mem_map_of_mem hf, hside⟩
    rw [Catalog.LeavesReserved, hhas] at hreserved
    cases hreserved
  have hkeys := keys_of_answer_prepare h.prepared
  rw [Key.same_comm] at hsame
  rw [find?_visible, if_neg (by simp [hside]),
    (hdistinct.of_keys_eq hkeys.symm).find?_of_mem (Prod.eta e ▸ he) hsame] at hfield
  exact hfield

/-- A record that is built in one mode is built in the other, if that finds all keys declared and
leaves interchangeable values. -/
theorem BuiltOf.of_other_mode (h : cat.BuiltOf t mode setup es candidate)
    (hsetup : cat.IsOwnSetup t setup) (hkeys : mode' = .strict → cat.DeclaresKeys t es)
    {candidate' : Entries Value}
    (hcandidate : (prepare cat mode' setup.registry t es).answer = .ok candidate')
    (halike : InterchangeableEntries candidate candidate') :
    cat.BuiltOf t mode' setup es candidate' := by
  refine ⟨h.copyable, hcandidate, ?_⟩
  by_cases hschema : cat.schemaOf t = []
  · exact .inl hschema
  have hadmits := h.admitted.resolve_left hschema
  rw [admits_iff, hsetup.enabled] at hadmits
  have hfields := (hadmits.resolve_left (by simp)).2.1
  refine .inr ((admits_iff ..).mpr (.inr ⟨hschema, ?_, ?_⟩))
  · intro f hf
    exact (halike.fieldInOrder_iff cat t _ f.1 f.2).mp (hfields f hf)
  · intro hstrict
    rw [cat.visible_declared_iff, keys_of_answer_prepare hcandidate]
    exact (hkeys hstrict).resolve_left hschema

end Catalog

/-! ### One value in two modes -/

/-- Wrapping leaves what matches in one mode, so it leaves something interchangeable in the other. -/
def SettlesAlike (cat : Catalog) (registry : Option RegistryId) (fresh : Bool) (mode mode' : Mode)
    (d : Descriptor) (v : Value) : Prop :=
  ∀ w, settled cat mode registry fresh d v = .ok w →
    mismatch? (cat.known registry) d w = none →
      ∃ w', settled cat mode' registry fresh d v = .ok w' ∧ w.Interchangeable w'

/-- The same of some items. -/
def ItemsSettleAlike (cat : Catalog) (registry : Option RegistryId) (fresh : Bool) (mode mode' : Mode)
    (element : Descriptor) (items : List Value) : Prop :=
  ∀ ws, settledItems cat mode registry fresh element items = .ok ws →
    (∀ w ∈ ws, mismatch? (cat.known registry) element w = none) →
      ∃ ws', settledItems cat mode' registry fresh element items = .ok ws' ∧
        List.Forall₂ Value.Interchangeable ws ws'

/-- The same of the entries that a record is prepared of. -/
def PreparesAlike (cat : Catalog) (mode mode' : Mode) (t : TypeId) (es : List (Key × Value)) :
    Prop :=
  ∀ candidate, (prepare cat mode (cat.registryOf t) t es).answer = .ok candidate →
    cat.FieldsMatch t candidate →
      ∃ candidate', (prepare cat mode' (cat.registryOf t) t es).answer = .ok candidate' ∧
        InterchangeableEntries candidate candidate'

/-- What stands in both modes is the same in both. -/
theorem SettlesAlike.of_eq {d : Descriptor} {v : Value}
    (h : settled cat mode registry fresh d v = settled cat mode' registry fresh d v) :
    SettlesAlike cat registry fresh mode mode' d v :=
  fun w hw _ => ⟨w, h ▸ hw, .refl w⟩

/-- What is made a list of its items in both modes settles alike where they do. -/
theorem settlesAlike_of_items {v : Value} {items : List Value} {element : Descriptor}
    {nullable fresh' : Bool} {made made' : Mark}
    (h : settled cat mode registry fresh (.array element nullable) v =
      (settledItems cat mode registry fresh' element items).map (.list made))
    (h' : settled cat mode' registry fresh (.array element nullable) v =
      (settledItems cat mode' registry fresh' element items).map (.list made'))
    (hitems : ItemsSettleAlike cat registry fresh' mode mode' element items) :
    SettlesAlike cat registry fresh mode mode' (.array element nullable) v := by
  intro w hw hmatch
  rw [h] at hw
  cases hws : settledItems cat mode registry fresh' element items with
  | error failure => rw [hws] at hw; cases hw
  | ok ws =>
    rw [hws] at hw
    cases hw
    rw [mismatch?_array_iff rfl] at hmatch
    obtain ⟨ws', hws', halike⟩ := hitems ws hws hmatch
    exact ⟨.list made' ws', by rw [h', hws']; rfl, .list halike made made'⟩

theorem settlesAlike_list {mark : Mark} {items : List Value} {element : Descriptor}
    (hitems : ItemsSettleAlike cat registry fresh mode mode' element items) (nullable : Bool) :
    SettlesAlike cat registry fresh mode mode' (.array element nullable) (.list mark items) := by
  obtain ⟨made, -, h⟩ := @settled_list_array cat mode registry fresh mark items element nullable
  obtain ⟨made', -, h'⟩ := @settled_list_array cat mode' registry fresh mark items element nullable
  exact settlesAlike_of_items h h' hitems

theorem settlesAlike_tuple {form : TupleForm} {mark : Mark} {items : List Value} {element : Descriptor}
    (hitems : ItemsSettleAlike cat registry false mode mode' element items) (nullable : Bool) :
    SettlesAlike cat registry fresh mode mode' (.array element nullable) (@Value.tuple form mark items) := by
  by_cases hwrapping : (cat.wrapping? registry element).isSome = true
  · have hmade (mode : Mode) : settled cat mode registry fresh (.array element nullable)
        (@Value.tuple form mark items) =
          (settledItems cat mode registry false element items).map (.list none) := by
      rw [settled_tuple_array, if_pos hwrapping]
    exact settlesAlike_of_items (hmade mode) (hmade mode') hitems
  · apply SettlesAlike.of_eq
    rw [settled_tuple_array, settled_tuple_array, if_neg hwrapping, if_neg hwrapping]

theorem itemsSettleAlike_nil (element : Descriptor) :
    ItemsSettleAlike cat registry fresh mode mode' element [] := by
  intro ws hws _
  cases hws
  exact ⟨[], rfl, .nil⟩

theorem itemsSettleAlike_cons {element : Descriptor} {v : Value} {vs : List Value}
    (hv : SettlesAlike cat registry fresh mode mode' element v)
    (hvs : ItemsSettleAlike cat registry fresh mode mode' element vs) :
    ItemsSettleAlike cat registry fresh mode mode' element (v :: vs) := by
  intro ws hws hmatch
  obtain ⟨w, rest, hw, hrest, rfl⟩ := settledItems_cons_eq_ok.mp hws
  obtain ⟨hhead, htail⟩ := List.forall_mem_cons.mp hmatch
  obtain ⟨w', hw', halike⟩ := hv w hw hhead
  obtain ⟨rest', hrest', halikes⟩ := hvs rest hrest htail
  exact ⟨w' :: rest', settledItems_cons_eq_ok.mpr ⟨w', rest', hw', hrest', rfl⟩,
    .cons halike halikes⟩

/-- A name that is wrapped is a reference, and what is built is of the type that it refers to. -/
theorem refersTo_of_wrapping {name target : String} {nullable : Bool} {factory : Factory}
    (h : cat.wrapping? registry (.named name nullable) = some (.build target factory)) :
    Descriptor.categoryOfName name = .reference ∧
      ∀ t, factory = .type t → cat.RefersTo registry name t := by
  rw [Catalog.wrapping?_named] at h
  by_cases hname : Descriptor.categoryOfName name = .reference
  · refine ⟨hname, ?_⟩
    rintro t rfl
    rw [if_pos hname] at h
    cases registry with
    | none => simp at h
    | some r =>
      simp only [Option.bind_some, Option.map_eq_some_iff, Wrapping.build.injEq] at h
      obtain ⟨factory, hfind, -, rfl⟩ := h
      exact ⟨hname, r, rfl, hfind⟩
  · rw [if_neg hname] at h
    cases h

/-- A mapping that is still one at a reference does not match there. -/
theorem mismatch?_mapping_at_reference {v : Value} {entries : Entries Value}
    (h : v.entries? = some entries) {name : String}
    (hname : Descriptor.categoryOfName name = .reference) (known : Option (List String))
    (nullable : Bool) :
    mismatch? known (.named name nullable) (settle fresh none v) ≠ none := by
  rw [mismatch?_settle_none]
  intro hmatch
  have hmap := (mismatch?_entries_named h known name nullable).mp hmatch
  rw [hname] at hmap
  cases hmap

/-- What stands at a reference to a record type, if it matches, is a record built of the mapping. -/
theorem builtOf_of_settled {v w : Value} {entries : Entries Value} (h : v.entries? = some entries)
    {name target : String} {nullable : Bool}
    (hwrapping : cat.wrapping? registry (.named name nullable) = some (.build target (.type t)))
    (hw : settled cat mode registry fresh (.named name nullable) v = .ok w)
    (hmatch : mismatch? (cat.known registry) (.named name nullable) w = none) :
    ∃ header candidate, w = .record none header candidate ∧ header.type = cat.typeName t ∧
      cat.BuiltOf t mode (cat.defaultSetup t) entries candidate := by
  rw [settled_build hwrapping h] at hw
  cases hout : (cat.construct t mode (cat.defaultSetup t) entries).answer with
  | error failure => rw [hout] at hw; cases hw
  | ok out =>
    obtain ⟨verdict, built⟩ := out
    rw [hout] at hw
    obtain ⟨_, _, hjudged⟩ := Catalog.judged_of_construct hout
    cases hvalid : built.header.valid with
    | true =>
      simp only [Except.map, hvalid, if_true, Except.ok.injEq] at hw
      rw [hjudged.valid_eq] at hvalid
      exact ⟨built.header, built.data, hw.symm, hjudged.type_eq,
        Catalog.builtOf_of_construct hout hvalid⟩
    | false =>
      simp only [Except.map, hvalid, Bool.false_eq_true, if_false, Except.ok.injEq] at hw
      subst hw
      exact absurd hmatch (mismatch?_mapping_at_reference h (refersTo_of_wrapping hwrapping).1 _ _)

/-- A mapping at a name settles alike where all data prepared of it does. -/
theorem settlesAlike_mapping {v : Value} {entries : Entries Value} (h : v.entries? = some entries)
    (hdistinct : Entries.Distinct entries)
    (hreserved : cat.RegistriesLeaveReserved) {name : String}
    (hprepares : ∀ t, cat.RefersTo registry name t →
      PreparesAlike cat mode mode' t entries ∧ (mode' = .strict → cat.DeclaresKeys t entries))
    (nullable : Bool) :
    SettlesAlike cat registry fresh mode mode' (.named name nullable) v := by
  rcases cat.wrapping?_named_cases registry name nullable with hnone | ⟨factory, hfactory⟩
  · exact .of_eq (by rw [settled_of_none hnone, settled_of_none hnone])
  obtain ⟨hname, hrefers⟩ := refersTo_of_wrapping hfactory
  cases factory with
  | bound schema => exact .of_eq (by rw [settled_bound hfactory h, settled_bound hfactory h])
  | echo =>
    intro w hw hmatch
    obtain ⟨shown, -, hsettled⟩ := @settled_echo cat mode registry fresh _ _ _ _ hfactory h
    rw [hsettled] at hw
    cases hw
    have hschema := schema?_of_mismatch? hname (by simp [Value.kind]) hmatch
    cases hschema
  | type t =>
    intro w hw hmatch
    obtain ⟨header, candidate, rfl, htype, hbuilt⟩ := builtOf_of_settled h hfactory hw hmatch
    obtain ⟨r, -, hfind⟩ := (hrefers t rfl).2
    obtain ⟨hprepare, hkeys⟩ := hprepares t (hrefers t rfl)
    have hfields := hbuilt.fieldsMatch (cat.isOwnSetup_default t) hdistinct (hreserved r name t hfind)
    obtain ⟨candidate', hcandidate', halike⟩ := hprepare candidate hbuilt.prepared hfields
    have hbuilt' := hbuilt.of_other_mode (cat.isOwnSetup_default t) hkeys hcandidate' halike
    obtain ⟨verdict', built', hout', -, hvalid', htype', hdata'⟩ := hbuilt'.exists_construct
    refine ⟨built'.toValue none, ?_, ?_⟩
    · rw [settled_build hfactory h, hout']
      simp [Except.map, hvalid']
    · rw [Record.toValue, hdata']
      exact .record (by rw [htype, htype']) halike none none

theorem wrappingDescriptor?_declared {field : Key} {d : Descriptor}
    (h : cat.wrappingDescriptor? t field = .ok (some d)) : cat.declared? t field = some d := by
  obtain ⟨declared, hfind, hread⟩ := Catalog.wrappingDescriptor?_eq_some h
  rw [Catalog.declared?, hfind, Option.bind_some, Value.descriptor_of_readDescriptor hread]
  rfl

theorem preparesAlike_nil (t : TypeId) : PreparesAlike cat mode mode' t [] := by
  intro candidate hcandidate _
  cases hcandidate
  exact ⟨[], rfl, .nil⟩

theorem preparesAlike_cons {k : Key} {v : Value} {es : List (Key × Value)}
    (hv : ∀ d, cat.declared? t k = some d →
      SettlesAlike cat (cat.registryOf t) true mode mode' d v)
    (hes : PreparesAlike cat mode mode' t es) : PreparesAlike cat mode mode' t ((k, v) :: es) := by
  intro candidate hcandidate hmatch
  obtain ⟨w, rest, hw, hrest, rfl⟩ := answer_prepare_cons_eq_ok.mp hcandidate
  obtain ⟨hhead, htail⟩ := List.forall_mem_cons.mp hmatch
  obtain ⟨w', hw', halike⟩ : ∃ w', settledField cat mode' (cat.registryOf t) t k v = .ok w' ∧
      w.Interchangeable w' := by
    rcases settledField_eq_ok.mp hw with ⟨hd, rfl⟩ | ⟨d, hd, hsettled⟩
    · exact ⟨_, settledField_eq_ok.mpr (.inl ⟨hd, rfl⟩), .refl _⟩
    · have hdeclared := wrappingDescriptor?_declared hd
      simp only [settledField, hd]
      exact hv d hdeclared w hsettled (hhead d hdeclared)
  obtain ⟨rest', hrest', halikes⟩ := hes rest hrest htail
  exact ⟨(k, w') :: rest', answer_prepare_cons_eq_ok.mpr ⟨w', rest', hw', hrest', rfl⟩,
    .cons ⟨rfl, halike⟩ halikes⟩

mutual

/-- Values settle alike in both modes, if strict mode, where it comes second, finds all keys declared. -/
theorem settlesAlike_of_declared
    (hreserved : cat.RegistriesLeaveReserved) (registry : Option RegistryId) (fresh : Bool) :
    (d : Descriptor) → (v : Value) → v.Throughout Value.HasDistinctKeys →
      (mode' = .strict → AllDeclared cat registry d v) →
        SettlesAlike cat registry fresh mode mode' d v
  | .named name nullable, .list _ _, _, _ | .named name nullable, .tuple _ _, _, _ =>
      .of_eq (by rw [settled_items_named rfl, settled_items_named rfl])
  | .array element nullable, .list _ items, hkeys, hdeclared =>
      settlesAlike_list
        (itemsSettleAlike_of_declared hreserved registry fresh element items hkeys.2 hdeclared) nullable
  | .array element nullable, .tuple _ items, hkeys, hdeclared =>
      settlesAlike_tuple
        (itemsSettleAlike_of_declared hreserved registry false element items hkeys.2 hdeclared) nullable
  | .array element nullable, .dict _ _, _, _ | .array element nullable, .view _ _, _, _ =>
      .of_eq (by rw [settled_entries_array rfl, settled_entries_array rfl])
  | .named name nullable, .dict _ entries, hkeys, hdeclared
  | .named name nullable, .view _ entries, hkeys, hdeclared =>
      settlesAlike_mapping rfl hkeys.1 hreserved
        (fun t ht => ⟨preparesAlike_of_declared hreserved t entries hkeys.2
            (fun hstrict => (hdeclared hstrict t ht).2),
          fun hstrict => (hdeclared hstrict t ht).1⟩) nullable
  | d, .atom _ _, _, _ | d, .buffer _ _, _, _ | d, .set _, _, _ | d, .record _ _ _, _, _ =>
      .of_eq (by rw [settled_of_solid rfl, settled_of_solid rfl])
  | d, .reference _, _, _ => .of_eq (by simp only [settled, wrap?])

theorem itemsSettleAlike_of_declared
    (hreserved : cat.RegistriesLeaveReserved) (registry : Option RegistryId) (fresh : Bool)
    (element : Descriptor) :
    (items : List Value) → ThroughoutItems Value.HasDistinctKeys items →
      (mode' = .strict → AllDeclaredItems cat registry element items) →
        ItemsSettleAlike cat registry fresh mode mode' element items
  | [], _, _ => itemsSettleAlike_nil element
  | v :: vs, hkeys, hdeclared =>
      itemsSettleAlike_cons
        (settlesAlike_of_declared hreserved registry fresh element v hkeys.1
          (fun hstrict => (hdeclared hstrict).1))
        (itemsSettleAlike_of_declared hreserved registry fresh element vs hkeys.2
          (fun hstrict => (hdeclared hstrict).2))

theorem preparesAlike_of_declared
    (hreserved : ∀ r name t, (cat.registryAt r).find? name = some (.type t) →
      (cat.schemaOf t).has (cat.sideKey t) = false) (t : TypeId) :
    (es : List (Key × Value)) → ThroughoutEntries Value.HasDistinctKeys es →
      (mode' = .strict → AllDeclaredFields cat t es) → PreparesAlike cat mode mode' t es
  | [], _, _ => preparesAlike_nil t
  | (_, v) :: es, hkeys, hdeclared =>
      preparesAlike_cons
        (fun d hd => settlesAlike_of_declared hreserved (cat.registryOf t) true d v hkeys.1
          (fun hstrict => (hdeclared hstrict).1 d hd))
        (preparesAlike_of_declared hreserved t es hkeys.2 (fun hstrict => (hdeclared hstrict).2))

end

/-! ### What strict mode has seen -/

/-- A record that is built in strict mode has no keys but declared ones. -/
theorem Catalog.BuiltOf.declaresKeys (h : cat.BuiltOf t .strict setup es candidate)
    (hsetup : cat.IsOwnSetup t setup) : cat.DeclaresKeys t es := by
  rcases h.admitted with hschema | hadmits
  · exact .inl hschema
  · rw [admits_iff, hsetup.enabled] at hadmits
    have hvisible := (hadmits.resolve_left (by simp)).2.2 rfl
    rw [visible_declared_iff, keys_of_answer_prepare h.prepared] at hvisible
    exact .inr hvisible

/-- What stands at a typed array, if it matches, holds items that do. -/
theorem exists_settledItems_of_matches {v w : Value} {items : List Value}
    (h : v.items? = some items) {element : Descriptor} {nullable : Bool}
    (hw : settled cat mode registry fresh (.array element nullable) v = .ok w)
    (hmatch : mismatch? (cat.known registry) (.array element nullable) w = none) :
    ∃ fresh' ws, settledItems cat mode registry fresh' element items = .ok ws ∧
      ∀ w ∈ ws, mismatch? (cat.known registry) element w = none := by
  obtain ⟨fresh', make, hsettled, hmake⟩ :=
    @settled_of_items cat mode registry fresh v items h element nullable
  rw [hsettled] at hw
  cases hws : settledItems cat mode registry fresh' element items with
  | error failure => rw [hws] at hw; cases hw
  | ok ws =>
    rw [hws] at hw
    cases hw
    exact ⟨fresh', ws, hws, (mismatch?_array_iff (hmake ws) ..).mp hmatch⟩

mutual

/-- What strict mode leaves in the place of a value matches only if all keys in it are declared. -/
theorem allDeclared_of_settled (hreserved : cat.RegistriesLeaveReserved)
    (registry : Option RegistryId) (fresh : Bool) :
    (d : Descriptor) → (v : Value) → v.Throughout Value.HasDistinctKeys → (w : Value) →
      settled cat .strict registry fresh d v = .ok w → mismatch? (cat.known registry) d w = none →
        AllDeclared cat registry d v
  | .array element nullable, .list _ items, hkeys, w, hw, hmatch
  | .array element nullable, .tuple _ items, hkeys, w, hw, hmatch => by
      obtain ⟨fresh', ws, hws, hmatches⟩ := exists_settledItems_of_matches rfl hw hmatch
      exact allDeclaredItems_of_settled hreserved registry fresh' element items hkeys.2 ws hws hmatches
  | .named name nullable, .dict _ entries, hkeys, w, hw, hmatch
  | .named name nullable, .view _ entries, hkeys, w, hw, hmatch => by
      intro t ht
      obtain ⟨hname, r, hregistry, hfind⟩ := ht
      have hwrapping : cat.wrapping? registry (.named name nullable) =
          some (.build name (.type t)) := by
        rw [Catalog.wrapping?_named, if_pos hname, hregistry]
        simp [hfind]
      obtain ⟨header, candidate, rfl, -, hbuilt⟩ := builtOf_of_settled rfl hwrapping hw hmatch
      have hsetup := cat.isOwnSetup_default t
      exact ⟨hbuilt.declaresKeys hsetup,
        allDeclaredFields_of_prepared hreserved t entries hkeys.2 candidate hbuilt.prepared
          (hbuilt.fieldsMatch hsetup hkeys.1 (hreserved r name t hfind))⟩
  | .named _ _, .list _ _, _, _, _, _ | .named _ _, .tuple _ _, _, _, _, _
  | .array _ _, .dict _ _, _, _, _, _ | .array _ _, .view _ _, _, _, _, _
  | _, .atom _ _, _, _, _, _ | _, .buffer _ _, _, _, _, _ | _, .set _, _, _, _, _
  | _, .record _ _ _, _, _, _, _ | _, .reference _, _, _, _, _ => trivial

theorem allDeclaredItems_of_settled (hreserved : cat.RegistriesLeaveReserved)
    (registry : Option RegistryId) (fresh : Bool) (element : Descriptor) :
    (items : List Value) → ThroughoutItems Value.HasDistinctKeys items → (ws : List Value) →
      settledItems cat .strict registry fresh element items = .ok ws →
        (∀ w ∈ ws, mismatch? (cat.known registry) element w = none) →
          AllDeclaredItems cat registry element items
  | [], _, _, _, _ => trivial
  | v :: vs, hkeys, ws, hws, hmatch => by
      obtain ⟨w, rest, hw, hrest, rfl⟩ := settledItems_cons_eq_ok.mp hws
      obtain ⟨hhead, htail⟩ := List.forall_mem_cons.mp hmatch
      exact ⟨allDeclared_of_settled hreserved registry fresh element v hkeys.1 w hw hhead,
        allDeclaredItems_of_settled hreserved registry fresh element vs hkeys.2 rest hrest htail⟩

theorem allDeclaredFields_of_prepared (hreserved : cat.RegistriesLeaveReserved) (t : TypeId) :
    (es : List (Key × Value)) → ThroughoutEntries Value.HasDistinctKeys es →
      (candidate : Entries Value) →
        (prepare cat .strict (cat.registryOf t) t es).answer = .ok candidate →
          cat.FieldsMatch t candidate → AllDeclaredFields cat t es
  | [], _, _, _, _ => trivial
  | (k, v) :: es, hkeys, candidate, hcandidate, hmatch => by
      obtain ⟨w, rest, hw, hrest, rfl⟩ := answer_prepare_cons_eq_ok.mp hcandidate
      obtain ⟨hhead, htail⟩ := List.forall_mem_cons.mp hmatch
      refine ⟨?_, allDeclaredFields_of_prepared hreserved t es hkeys.2 rest hrest htail⟩
      intro d hd
      have hw_matches := hhead d hd
      rcases settledField_eq_ok.mp hw with ⟨_, rfl⟩ | ⟨d', hwrapping, hsettled⟩
      · -- The descriptor is no text, so that nothing is wrapped and the value matches as it is.
        exact allDeclared_of_matches d v ((mismatch?_copy ..).symm.trans hw_matches)
      · have hdeclared := wrappingDescriptor?_declared hwrapping
        obtain rfl : d' = d := Option.some.inj (hdeclared.symm.trans hd)
        exact allDeclared_of_settled hreserved (cat.registryOf t) true d' v hkeys.1 w hsettled
          hw_matches

end

end Modes

/-! ### Records made in the two modes -/

namespace Catalog

variable {cat : Catalog} {t : TypeId} {sink : Sink} {data : Value} {es : Entries Value}

theorem accepts_iff_builtOf (hdata : data.entries? = some es) (mode : Mode) :
    cat.Accepts t mode sink data ↔
      ∃ candidate, cat.BuiltOf t mode (cat.setupFor t none none sink) es candidate := by
  unfold Accepts
  rw [answer_make hdata]
  constructor
  · rintro ⟨verdict, built, h, hvalid⟩
    exact ⟨built.data, builtOf_of_construct h hvalid⟩
  · rintro ⟨candidate, h⟩
    obtain ⟨verdict, built, hout, hvalid, -⟩ := h.exists_construct
    exact ⟨verdict, built, hout, hvalid⟩

/-- What a record was built of in one mode, a record is built of in the other, if strict mode, where it
comes second, finds all keys declared. -/
theorem BuiltOf.exists_other_mode {mode mode' : Mode} {setup : Setup} {candidate : Entries Value}
    (h : cat.BuiltOf t mode setup es candidate) (hsetup : cat.IsOwnSetup t setup)
    (hown : cat.LeavesReserved t) (hreserved : cat.RegistriesLeaveReserved)
    (hdistinct : Entries.Distinct es) (hkeys : ThroughoutEntries Value.HasDistinctKeys es)
    (hdeclared : mode' = .strict → cat.DeclaresThroughout t es) :
    ∃ candidate', cat.BuiltOf t mode' setup es candidate' ∧
      InterchangeableEntries candidate candidate' := by
  have hprepares : PreparesAlike cat mode mode' t es :=
    preparesAlike_of_declared hreserved t es hkeys (fun hstrict => (hdeclared hstrict).2)
  have hprepared := h.prepared
  rw [hsetup.registry] at hprepared
  obtain ⟨candidate', hcandidate', halike⟩ :=
    hprepares candidate hprepared (h.fieldsMatch hsetup hdistinct hown)
  rw [← hsetup.registry] at hcandidate'
  exact ⟨candidate',
    h.of_other_mode hsetup (fun hstrict => (hdeclared hstrict).1) hcandidate' halike, halike⟩

/-- Strict mode accepts what loose mode accepts and what has no undeclared keys, at any depth. Where both
accept, the two records have one plain form. Nothing is asked of the registries but that no type in
them declares its reserved field, and nothing of the data but that it is a mapping. -/
theorem accepts_strict_iff (hown : cat.LeavesReserved t) (hreserved : cat.RegistriesLeaveReserved)
    (hdata : data.entries? = some es) (hkeys : data.Throughout Value.HasDistinctKeys) :
    (cat.Accepts t .strict sink data ↔
      cat.Accepts t .loose sink data ∧ cat.DeclaresThroughout t es) ∧
    ∀ verdict verdict' strict loose,
      (Record.make cat t data .strict none none sink).answer = .ok (verdict, strict) →
      (Record.make cat t data .loose none none sink).answer = .ok (verdict', loose) →
      verdict.valid = true → verdict'.valid = true → strict.toPlain = loose.toPlain := by
  have hsetup := cat.isOwnSetup_setupFor t sink
  obtain ⟨hself, hentries⟩ := (Value.throughout_of_entries hdata).mp hkeys
  have hdistinct : Entries.Distinct es := by
    cases data with
    | dict _ _ | view _ _ =>
      obtain rfl := Option.some.inj hdata
      exact hself
    | _ => simp [Value.entries?] at hdata
  have hloosens {candidate : Entries Value}
      (h : cat.BuiltOf t .strict (cat.setupFor t none none sink) es candidate) :
      ∃ candidate', cat.BuiltOf t .loose (cat.setupFor t none none sink) es candidate' ∧
        InterchangeableEntries candidate candidate' :=
    h.exists_other_mode hsetup hown hreserved hdistinct hentries fun hmode => by cases hmode
  refine ⟨?_, ?_⟩
  · rw [accepts_iff_builtOf hdata, accepts_iff_builtOf hdata]
    constructor
    · rintro ⟨candidate, h⟩
      obtain ⟨candidate', h', -⟩ := hloosens h
      refine ⟨⟨candidate', h'⟩, h.declaresKeys hsetup, ?_⟩
      exact allDeclaredFields_of_prepared hreserved t es hentries candidate h.prepared
        (h.fieldsMatch hsetup hdistinct hown)
    · rintro ⟨⟨candidate, h⟩, hdeclared⟩
      obtain ⟨candidate', h', -⟩ :=
        h.exists_other_mode hsetup hown hreserved hdistinct hentries fun _ => hdeclared
      exact ⟨candidate', h'⟩
  · intro verdict verdict' strict loose hstrict hloose hvalid hvalid'
    rw [answer_make hdata] at hstrict hloose
    have hbuilt := builtOf_of_construct hstrict hvalid
    obtain ⟨candidate', h', halike⟩ := hloosens hbuilt
    have hsame : candidate' = loose.data :=
      Except.ok.inj (h'.prepared.symm.trans (builtOf_of_construct hloose hvalid').prepared)
    rw [Record.toPlain, Record.toPlain, halike.plain_eq, hsame]

/-- Folders hold notes and other folders, and notes refer to folders. -/
def folders : Catalog where
  types := [.root,
    { className := "Folder", schemaName := "Folder", registry := some 0,
      baseSchema := [(.str "notes", .str "Array<Note?>"), (.str "inside", .str "Folder?")] },
    { className := "Note", schemaName := "Note", registry := some 0,
      baseSchema := [(.str "text", .str "String"), (.str "about", .str "Folder?")] }]
  registries := [[("Folder", .type 1), ("Note", .type 2)]]

/-- A folder with one note, which is given by its entries. -/
def folderOf (note : Entries Value) : Entries Value :=
  [(.str "notes", .list none [.nil, .dict none note])]

/-- A note with the one field that it must have. -/
def plainNote : Entries Value := [(.str "text", .str "a")]

/-- A note with a field that is not declared. -/
def coloredNote : Entries Value := [(.str "text", .str "a"), (.str "color", .str "red")]

theorem registriesLeaveReserved_folders : folders.RegistriesLeaveReserved := by
  intro r name t h
  unfold LeavesReserved
  cases r with
  | succ r => simp [registryAt, folders, Registry.find?] at h
  | zero =>
    by_cases hfolder : "Folder" = name
    · subst hfolder
      cases h
      decide +kernel
    · by_cases hnote : "Note" = name
      · subst hnote
        cases h
        decide +kernel
      · simp [registryAt, folders, Registry.find?, hfolder, hnote] at h

/-- Whether a folder has undeclared keys depends on its note. -/
theorem declaresThroughout_folderOf (note : Entries Value) :
    folders.DeclaresThroughout 1 (folderOf note) ↔ folders.DeclaresThroughout 2 note := by
  have hkeys : folders.DeclaresKeys 1 (folderOf note) := by
    refine .inr fun k hk => .inr ?_
    obtain rfl : k = .str "notes" := List.mem_singleton.mp hk
    decide +kernel
  have hnotes : folders.declared? 1 (.str "notes") = some (.array (.named "Note" true) false) := by
    decide +kernel
  have hregistry : folders.registryOf 1 = some 0 := by
    simp [registryOf, typeAt, folders]
  have hrefers (t : TypeId) : folders.RefersTo (some 0) "Note" t ↔ t = 2 := by
    have hname : Descriptor.categoryOfName "Note" = .reference := by decide +kernel
    have hfind : (folders.registryAt 0).find? "Note" = some (.type 2) := by decide +kernel
    simp [RefersTo, hname, hfind, eq_comm]
  rw [folderOf] at hkeys ⊢
  simp [hkeys, hnotes, hregistry, hrefers, AllDeclaredFields, AllDeclared, AllDeclaredItems,
    DeclaresThroughout]

/-- A folder with a plain note is accepted in both modes, one with a colored note in loose mode only. -/
theorem accepts_folder :
    folders.LeavesReserved 1 ∧ folders.RegistriesLeaveReserved ∧
      folders.Accepts 1 .strict .none (.dict none (folderOf plainNote)) ∧
      folders.Accepts 1 .loose .none (.dict none (folderOf coloredNote)) ∧
      ¬ folders.Accepts 1 .strict .none (.dict none (folderOf coloredNote)) := by
  have hloose (note : Entries Value) (h : Act.passes (fun out => out.1.valid)
      (Record.make folders 1 (.dict none (folderOf note)) .loose none none .none).answer = true) :
      folders.Accepts 1 .loose .none (.dict none (folderOf note)) := by
    obtain ⟨⟨verdict, built⟩, hout, hvalid⟩ := Act.exists_of_passes h
    exact ⟨verdict, built, hout, hvalid⟩
  have hplain := hloose plainNote (by decide +kernel)
  have hcolored := hloose coloredNote (by decide +kernel)
  have hown : folders.LeavesReserved 1 := by
    unfold LeavesReserved
    decide +kernel
  have hkeys (note : Entries Value) (h : (Value.dict none note).Throughout Value.HasDistinctKeys) :
      (Value.dict none (folderOf note)).Throughout Value.HasDistinctKeys := by
    simp only [folderOf, Value.Throughout, ThroughoutEntries, ThroughoutItems]
    exact ⟨List.pairwise_singleton .., ⟨trivial, trivial, h, trivial⟩, trivial⟩
  refine ⟨hown, registriesLeaveReserved_folders, ?_, hcolored, ?_⟩
  · have hnote : (Value.dict none plainNote).Throughout Value.HasDistinctKeys :=
      ⟨List.pairwise_singleton .., trivial, trivial⟩
    refine (accepts_strict_iff hown registriesLeaveReserved_folders rfl (hkeys _ hnote)).1.mpr
      ⟨hplain, (declaresThroughout_folderOf _).mpr ⟨.inr fun k hk => .inr ?_, ?_⟩⟩
    · obtain rfl : k = .str "text" := List.mem_singleton.mp hk
      decide +kernel
    · exact ⟨fun _ _ => trivial, trivial⟩
  · intro h
    have hdistinct : Entries.Distinct coloredNote := by
      simp [coloredNote, Entries.Distinct]
    have hdeclared := ((accepts_strict_iff hown registriesLeaveReserved_folders rfl
      (hkeys _ ⟨hdistinct, trivial, trivial, trivial⟩)).1.mp h).2
    obtain ⟨hnote, -⟩ := (declaresThroughout_folderOf coloredNote).mp hdeclared
    rcases hnote with hempty | hall
    · exact absurd hempty (by decide +kernel)
    · exact absurd (hall (.str "color") (by decide +kernel)) (by decide +kernel)

end Catalog

end TypedRecord
