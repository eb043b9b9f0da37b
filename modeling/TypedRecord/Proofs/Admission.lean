import TypedRecord.Construction
import TypedRecord.Proofs.Act

/-!
# TypedRecord.Proofs.Admission

When a validator admits data.

`validate` reads a list of findings and stops at the first. It admits data where that list is empty,
and the list is empty where every declared field is in order and, in strict mode, every key of the
data is declared. `Catalog.admits_iff` says so for the data of a record; everything that is proved of
verdicts later goes through it.
-/

namespace TypedRecord

@[simp] theorem answer_report (sink : Sink) (mode : Mode) (label : Option String) (issue : Issue) :
    (report sink mode label issue).answer = .ok () := Act.answer_deliver _ _

/-- What a validation that stops at the first failure answers. -/
theorem answer_validate (known : Option (List String)) (v : Validator) (data : Value)
    (schema : Schema) (mode : Mode) (label : Option String) :
    (validate known v data schema mode label).answer =
      if v.enabled then
        match findings known v.excerpt data schema mode with
        | [] => .ok .success
        | .error failure :: _ => .error failure
        | .ok issue :: _ => .ok ⟨[issue]⟩
      else .ok .success := by
  unfold validate
  split
  · cases findings known v.excerpt data schema mode with
    | nil => rfl
    | cons first rest =>
      cases first with
      | error failure => rfl
      | ok issue =>
        simp only [Act.answer_bind, answer_report]
        rfl
  · rfl

/-- A validation ends well where nothing is looked at or nothing is found. -/
theorem validate_valid_iff (known : Option (List String)) (v : Validator) (data : Value)
    (schema : Schema) (mode : Mode) (label : Option String) :
    (∃ verdict, (validate known v data schema mode label).answer = .ok verdict ∧
        verdict.valid = true) ↔
      v.enabled = false ∨ findings known v.excerpt data schema mode = [] := by
  rw [answer_validate]
  cases v.enabled with
  | false => simp
  | true =>
    cases findings known v.excerpt data schema mode with
    | nil => simp
    | cons first rest => cases first <;> simp [Verdict.valid]

/-- A field is in order in some data: its descriptor parses, and the field holds a matching value, or
is absent and nullable. -/
def FieldInOrder (known : Option (List String)) (data : Entries Value) (field : Key)
    (declared : Value) : Prop :=
  ∃ d, declared.descriptor = .ok d ∧
    match data.find? field with
    | none => d.nullable = true
    | some v => mismatch? known d v = none

/-- There is nothing to complain of in a field that is in order. -/
theorem complaint?_eq_none_iff (known : Option (List String)) (data : Entries Value) (field : Key)
    (declared : Value) :
    complaint? known data field declared = none ↔ FieldInOrder known data field declared := by
  unfold complaint? FieldInOrder
  cases declared.descriptor with
  | error m => simp
  | ok d => cases data.find? field <;> simp

theorem declaredFindings_eq_nil_iff (known : Option (List String)) (size : Int)
    (data : Entries Value) (schema : Schema) :
    declaredFindings known size data schema = [] ↔
      ∀ f ∈ schema, FieldInOrder known data f.1 f.2 := by
  simp [declaredFindings, List.filterMap_eq_nil_iff, complaint?_eq_none_iff]

theorem undeclaredFindings_eq_nil_iff (size : Int) (data : Entries Value) (schema : Schema) :
    undeclaredFindings size data schema = [] ↔ ∀ e ∈ data, schema.has e.1 = true := by
  simp [undeclaredFindings, List.filter_eq_nil_iff]

/-- Nothing is found in a mapping where there are fields to judge by, all of them are in order, and in
strict mode there are no others. -/
theorem findings_eq_nil_iff (known : Option (List String)) (size : Int) (mark : Mark)
    (data : Entries Value) (schema : Schema) (mode : Mode) :
    findings known size (.dict mark data) schema mode = [] ↔
      schema ≠ [] ∧ (∀ f ∈ schema, FieldInOrder known data f.1 f.2) ∧
        (mode = .strict → ∀ e ∈ data, schema.has e.1 = true) := by
  unfold findings
  by_cases hschema : schema = []
  · simp [hschema]
  · cases mode <;>
      simp [hschema, Value.entries?, declaredFindings_eq_nil_iff, undeclaredFindings_eq_nil_iff]

namespace Catalog

/-! ### What is seen of some data -/

/-- The reserved field of a type. -/
def sideKey (cat : Catalog) (t : TypeId) : Key := .str (cat.typeAt t).sideField

/-- Data is judged without the reserved field. -/
theorem visible_eq_without (cat : Catalog) (t : TypeId) (data : Entries Value) :
    cat.visible t data = Entries.without (cat.sideKey t) data := rfl

theorem find?_visible (cat : Catalog) (t : TypeId) (data : Entries Value) (key : Key) :
    (cat.visible t data).find? key =
      if key.same (cat.sideKey t) = true then none else data.find? key := by
  rw [visible_eq_without]
  by_cases hside : key.same (cat.sideKey t) = true
  · rw [if_pos hside]
    rw [Key.same_comm] at hside
    exact Entries.find?_without_same hside data
  · rw [if_neg hside]
    rw [Key.same_comm, Bool.not_eq_true] at hside
    exact Entries.find?_without_of_ne hside data

/-- All that is seen of some data is declared where every key is that of the reserved field or
declared. -/
theorem visible_declared_iff (cat : Catalog) (t : TypeId) (data : Entries Value) :
    (∀ e ∈ cat.visible t data, (cat.schemaOf t).has e.1 = true) ↔
      ∀ k ∈ Entries.keys data,
        k.same (cat.sideKey t) = true ∨ (cat.schemaOf t).has k = true := by
  simp only [visible_eq_without, Entries.mem_without, Entries.keys, List.forall_mem_map]
  constructor
  · intro h e he
    by_cases hside : e.1.same (cat.sideKey t) = true
    · exact .inl hside
    · exact .inr (h e ⟨he, Bool.eq_false_iff.mpr hside⟩)
  · rintro h e ⟨he, hside⟩
    rcases h e he with hsame | hdeclared
    · rw [hside] at hsame
      cases hsame
    · exact hdeclared

/-- Nothing is seen of data that holds nothing but the reserved field. -/
theorem visible_eq_nil_iff (cat : Catalog) (t : TypeId) (data : Entries Value) :
    cat.visible t data = [] ↔ ∀ k ∈ Entries.keys data, k.same (cat.sideKey t) = true := by
  simp [visible_eq_without, Entries.without, Entries.keys]

/-! ### Verdicts on records -/

/-- A validator admits the data of a record of some type. -/
def Admits (cat : Catalog) (t : TypeId) (v : Validator) (mode : Mode) (data : Entries Value) :
    Prop :=
  ∃ verdict, (cat.validateAs t v mode data).answer = .ok verdict ∧ verdict.valid = true

theorem admits_iff (cat : Catalog) (t : TypeId) (v : Validator) (mode : Mode)
    (data : Entries Value) :
    cat.Admits t v mode data ↔
      v.enabled = false ∨
        cat.schemaOf t ≠ [] ∧
          (∀ f ∈ cat.schemaOf t,
            FieldInOrder (cat.known v.registry) (cat.visible t data) f.1 f.2) ∧
          (mode = .strict → ∀ e ∈ cat.visible t data, (cat.schemaOf t).has e.1 = true) := by
  unfold Admits validateAs
  rw [validate_valid_iff, findings_eq_nil_iff]

/-- What a new record is, by the verdict on the data that it was judged by: it holds the data or
nothing. -/
structure Judged (cat : Catalog) (t : TypeId) (mode : Mode) (setup : Setup)
    (candidate : Entries Value) (verdict : Verdict) (r : Record) : Prop where
  type_eq : r.header.type = cat.typeName t
  mode_eq : r.header.mode = mode
  registry_eq : r.header.registry = setup.registry
  validator_eq : r.header.validator = setup.validator
  valid_eq : r.header.valid = verdict.valid
  tainted_eq : r.header.tainted = false
  data_eq : r.data = if verdict.valid then candidate else []
  admits : cat.schemaOf t ≠ [] → verdict.valid = true →
    cat.Admits t setup.validator mode candidate

/-- Where there are fields, the verdict decides what a new record is. -/
theorem answer_judge {cat : Catalog} {t : TypeId} (h : cat.schemaOf t ≠ []) (mode : Mode)
    (setup : Setup) (candidate : Entries Value) :
    (cat.judge t mode setup candidate).answer =
      (cat.validateAs t setup.validator mode candidate).answer.map fun verdict =>
        (verdict, ⟨{ (cat.blank t mode setup).header with
            initialVerdict := verdict, lastVerdict := some verdict, valid := verdict.valid },
          if verdict.valid then candidate else []⟩) := by
  unfold judge
  simp only [h, if_false, Act.answer_bind]
  cases (cat.validateAs t setup.validator mode candidate).answer with
  | error failure => rfl
  | ok verdict =>
      change Act.answer (if verdict.valid = true then _ else _) = .ok _
      by_cases hvalid : verdict.valid = true
      · simp only [hvalid, if_true]
        rfl
      · rw [if_neg hvalid, Act.answer_bind, Act.answer_deliver]
        simp only [Bool.eq_false_iff.mpr hvalid]
        rfl

theorem judged_of_judge {cat : Catalog} {t : TypeId} {mode : Mode} {setup : Setup}
    {candidate : Entries Value} {verdict : Verdict} {r : Record}
    (h : (cat.judge t mode setup candidate).answer = .ok (verdict, r)) :
    cat.Judged t mode setup candidate verdict r := by
  by_cases hschema : cat.schemaOf t = []
  · simp only [judge, hschema, if_true, Act.answer_pure] at h
    cases h
    exact ⟨rfl, rfl, rfl, rfl, rfl, rfl, rfl, fun hne => absurd hschema hne⟩
  · rw [answer_judge hschema] at h
    cases hverdict : (cat.validateAs t setup.validator mode candidate).answer with
    | error failure => rw [hverdict] at h; cases h
    | ok reached =>
        rw [hverdict] at h
        cases h
        exact ⟨rfl, rfl, rfl, rfl, rfl, rfl, rfl, fun _ hvalid => ⟨_, hverdict, hvalid⟩⟩

/-- A record is made valid of data that its validator admits; where there are no fields, of any. -/
theorem judge_valid_iff (cat : Catalog) (t : TypeId) (mode : Mode) (setup : Setup)
    (candidate : Entries Value) :
    (∃ verdict r, (cat.judge t mode setup candidate).answer = .ok (verdict, r) ∧
        verdict.valid = true) ↔
      cat.schemaOf t = [] ∨ cat.Admits t setup.validator mode candidate := by
  by_cases hschema : cat.schemaOf t = []
  · simp [judge, hschema]
  · constructor
    · rintro ⟨verdict, r, h, hvalid⟩
      exact .inr ((judged_of_judge h).admits hschema hvalid)
    · rintro (hempty | ⟨verdict, hverdict, hvalid⟩)
      · exact absurd hempty hschema
      · exact ⟨verdict, _, by rw [answer_judge hschema, hverdict]; rfl, hvalid⟩

end Catalog

end TypedRecord
