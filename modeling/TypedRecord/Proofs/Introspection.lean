import Mathlib.Data.List.Forall2
import TypedRecord.Introspection
import TypedRecord.Proofs.Canonical
import TypedRecord.Proofs.Neighbours

/-!
# TypedRecord.Proofs.Introspection

What the description of a field says is what becomes of the field.

A description is made from the text that a field is declared with. The validator reads this text again
when it judges a value, goes by its mark when the field is absent, and wrapping reads it once more to
find the schema behind the arrays. All of them agree, because they go by one descriptor or by its
canonical text, which stands for the same (`parse_text`).

What an issue is about is found by its field, what it reports by its message: only the message about a
malformed descriptor has a colon directly behind the quoted field (`message_of_complaint?_iff`).
-/

namespace TypedRecord

namespace Descriptor

/-- What stands within all typed arrays of a descriptor. -/
def innermost : Descriptor → Descriptor
  | named name nullable => named name nullable
  | array element _ => element.innermost

/-- A schema is named where the innermost element refers to one. -/
theorem isSome_referenced? (d : Descriptor) : d.referenced?.isSome = d.innermost.isReference := by
  induction d with
  | named name nullable =>
    by_cases h : categoryOfName name = .reference <;>
      simp [referenced?, innermost, isReference, category, h]
  | array element nullable ih => exact ih

/-- The typed arrays are what has an element. -/
theorem isSome_element?_iff (d : Descriptor) : d.element?.isSome = true ↔ d.category = .array := by
  cases d with
  | named name nullable =>
    refine iff_of_false Bool.false_ne_true ?_
    rw [category, categoryOfName]
    split_ifs <;> simp
  | array element nullable => exact iff_of_true rfl rfl

end Descriptor

/-- A mapping from texts to texts. -/
structure Schema.IsTextual (schema : Schema) : Prop where
  distinct : Entries.Distinct schema
  fields : ∀ f ∈ schema, f.1.IsText
  texts : ∀ f ∈ schema, ∃ mark s, f.2 = .atom mark (.str s)

/-- What extends and what is extended by texts are texts together. -/
theorem RecordType.isTextual_effectiveSchema {t : RecordType} (hbase : t.baseSchema.IsTextual)
    (hextensions : t.extensions.IsTextual) : t.effectiveSchema.IsTextual := by
  have hall : ∀ f ∈ t.effectiveSchema, f.1.IsText ∧ ∃ mark s, f.2 = .atom mark (.str s) :=
    Entries.forall_mem_putAll (Q := fun declared => ∃ mark s, declared = Value.atom mark (.str s))
      (fun f hf => ⟨hbase.fields f hf, hbase.texts f hf⟩)
      fun f hf => ⟨hextensions.fields f hf, hextensions.texts f hf⟩
  exact ⟨hbase.distinct.putAll _, fun f hf => (hall f hf).1, fun f hf => (hall f hf).2⟩

/-! ### Complaints about one field -/

/-- An issue about a field reports that what the field is declared with is no descriptor. -/
def Issue.IsMalformed (issue : Issue) (name : String) : Prop :=
  issue.field = some name ∧
    ∃ m : Descriptor.Malformed, issue.message = "Field '" ++ name ++ "': " ++ m.message

section Complaints

variable {known : Option (List String)} {es : Entries Value} {mark : Mark} {name : String}
  {declared : Value} {c : Complaint}

theorem mismatchMessage_ne (d : Descriptor) (v : Value) (m : Mismatch) (rest : String) :
    mismatchMessage (.atom mark (.str name)) d v m ≠ "Field '" ++ name ++ "': " ++ rest := by
  intro h
  have hchars := congrArg String.toList h
  simp [mismatchMessage, Key.plainText, String.toList_append, List.append_assoc] at hchars

theorem missingMessage_ne (expected rest : String) :
    "Missing field '" ++ name ++ "' (expected " ++ expected ++ ")" ≠
      "Field '" ++ name ++ "': " ++ rest := by
  intro h
  have hchars := congrArg String.toList h
  simp [String.toList_append] at hchars

/-- Only the complaint about a malformed descriptor is worded so. -/
theorem message_of_complaint?_iff (h : complaint? known es (.atom mark (.str name)) declared = some c) :
    (∃ m : Descriptor.Malformed, c.message = "Field '" ++ name ++ "': " ++ m.message) ↔
      declared.descriptor.isOk = false := by
  unfold complaint? at h
  cases hd : declared.descriptor with
  | error m =>
    simp only [hd, Option.some.injEq] at h
    subst h
    exact iff_of_true ⟨m, rfl⟩ rfl
  | ok d =>
    refine iff_of_false ?_ (by simp [Except.isOk, Except.toBool])
    rintro ⟨m, hm⟩
    simp only [hd] at h
    cases hfind : es.find? (.atom mark (.str name)) with
    | none =>
      simp only [hfind] at h
      split at h
      · cases h
      · cases h
        exact missingMessage_ne d.text m.message hm
    | some v =>
      simp only [hfind] at h
      obtain ⟨mismatch, -, rfl⟩ := Option.map_eq_some_iff.mp h
      exact mismatchMessage_ne d v mismatch m.message hm

/-- Only undeclared keys are unexpected. -/
theorem kind_ne_of_complaint? {field : Key} (h : complaint? known es field declared = some c) :
    c.kind ≠ .unexpectedField := by
  unfold complaint? at h
  split at h
  · cases h
    exact nofun
  · split at h
    · split at h
      · cases h
      · cases h
        exact nofun
    · obtain ⟨mismatch, -, rfl⟩ := Option.map_eq_some_iff.mp h
      exact nofun

/-- An absent field is in order where it accepts null. -/
theorem complaint?_of_absent {field : Key} (h : es.has field = false) :
    complaint? known es field declared = none ↔
      ∃ d, declared.descriptor = .ok d ∧ d.nullable = true := by
  have hfind : es.find? field = none := by simpa [Entries.has] using h
  unfold complaint?
  cases declared.descriptor with
  | error m => simp
  | ok d => simp [hfind]

end Complaints

/-! ### What is reported of one field -/

section Reports

variable {known : Option (List String)} {v : Validator} {data : Value} {es : Entries Value}
  {schema : Schema} {mode : Mode} {label : Option String} {verdict : Verdict}

/-- Where everything is reported, every complaint about a declared field has its issue. -/
theorem exists_issue_of_complaint (hv : v.enabled = true) (hdata : data.entries? = some es)
    (hverdict : (collect known v data schema mode label).answer = .ok verdict) {f : Key × Value}
    (hf : f ∈ schema) {c : Complaint} (hc : complaint? known es f.1 f.2 = some c) :
    ∃ issue ∈ verdict.issues, issue.Says c f.1 := by
  rw [answer_collect hv] at hverdict
  cases hissues : issuesOf (findings known v.excerpt data schema mode) with
  | error failure => rw [hissues] at hverdict; cases hverdict
  | ok issues =>
    rw [hissues] at hverdict
    cases hverdict
    have hmem : c.declaredFinding v.excerpt es (orderedFields es schema) f ∈
        findings known v.excerpt data schema mode := by
      rw [findings_of_entries (List.ne_nil_of_mem hf) hdata, declaredFindings_eq_filterMap]
      refine List.mem_append_left _ (List.mem_filterMap.mpr ⟨f, hf, ?_⟩)
      rw [declaredFinding?, hc, Option.map_some]
    rw [issuesOf_eq_ok_iff.mp hissues] at hmem
    obtain ⟨issue, hissue, hfinding⟩ := List.mem_map.mp hmem
    exact ⟨issue, hissue, Complaint.says_of_declaredFinding hfinding.symm⟩

/-- An issue about a declared field says the complaint about it, unless it is about a key that is not
declared and reported by the same text. -/
theorem exists_complaint_of_issue (hv : v.enabled = true) (hdata : data.entries? = some es)
    (hschema : schema.IsTextual)
    (hverdict : (collect known v data schema mode label).answer = .ok verdict) {issue : Issue}
    (hissue : issue ∈ verdict.issues) {mark : Mark} {name : String} {declared : Value}
    (hf : (.atom mark (.str name), declared) ∈ schema) (hname : issue.field = some name) :
    (∃ c, complaint? known es (.atom mark (.str name)) declared = some c ∧
        issue.Says c (.atom mark (.str name))) ∨
      ∃ e : Key × Value, issue.Says (undeclaredComplaint e.1 e.2) e.1 := by
  have hfound := ok_mem_findings hv (.inr hverdict) hissue
  obtain ⟨f, hmem, c, hc, hwords⟩ | ⟨e, -, -, hwords⟩ :=
    says_of_mem_findings hdata (List.ne_nil_of_mem hf) hfound
  · refine .inl ⟨c, ?_⟩
    -- The texts of two declared fields are told apart, so it is the field itself.
    obtain ⟨mark', s, hs⟩ := hschema.fields f hmem
    obtain ⟨reported, hreported, hfield, -⟩ := hwords.path_eq
    rw [hs] at hreported
    obtain rfl : s = name :=
      (Option.some.inj hreported).trans (Option.some.inj (hfield.symm.trans hname))
    have hsame : f.1.same (.atom mark (.str s)) = true := by simp [hs, Key.same, Key.canon]
    rw [hschema.distinct.eq_of_same hmem hf hsame] at hc hwords
    exact ⟨hc, hwords⟩
  · exact .inr ⟨e, hwords⟩

section Field

variable (hv : v.enabled = true) (hdata : data.entries? = some es) (hschema : schema.IsTextual)
  (hverdict : (collect known v data schema mode label).answer = .ok verdict) {mark : Mark}
  {name : String} {declared : Value} (hf : (.atom mark (.str name), declared) ∈ schema)

include hv hdata hschema hverdict hf

/-- A malformed descriptor is reported as such, and no other one is. -/
theorem exists_isMalformed_iff :
    (∃ issue ∈ verdict.issues, issue.IsMalformed name) ↔ declared.descriptor.isOk = false := by
  constructor
  · rintro ⟨issue, hissue, hname, m, hm⟩
    obtain ⟨c, hc, hwords⟩ | ⟨e, hwords⟩ :=
      exists_complaint_of_issue hv hdata hschema hverdict hissue hf hname
    · exact (message_of_complaint?_iff hc).mp ⟨m, hwords.message_eq.symm.trans hm⟩
    · rw [hwords.message_eq] at hm
      have hchars := congrArg String.toList hm
      simp [undeclaredComplaint, String.toList_append] at hchars
  · intro hbad
    cases hc : complaint? known es (.atom mark (.str name)) declared with
    | none =>
      unfold complaint? at hc
      cases hd : declared.descriptor with
      | error m => simp [hd] at hc
      | ok d => rw [hd] at hbad; cases hbad
    | some c =>
      obtain ⟨issue, hissue, hwords⟩ := exists_issue_of_complaint hv hdata hverdict hf hc
      obtain ⟨m, hm⟩ := (message_of_complaint?_iff hc).mpr hbad
      obtain ⟨reported, hreported, hfield, -⟩ := hwords.path_eq
      obtain rfl : name = reported := Option.some.inj hreported
      exact ⟨issue, hissue, hfield, m, hwords.message_eq.trans hm⟩

/-- The absence of a field is an issue unless null is accepted. -/
theorem absence_reported_iff (habsent : es.has (.str name) = false) :
    (∃ issue ∈ verdict.issues, issue.field = some name ∧ issue.kind ≠ .unexpectedField) ↔
      ¬ ∃ d, declared.descriptor = .ok d ∧ d.nullable = true := by
  have hsame : Key.same (.atom mark (.str name)) (.str name) = true := by simp [Key.same, Key.canon]
  rw [Entries.has, ← Entries.find?_congr hsame] at habsent
  rw [← @complaint?_of_absent known es declared _ habsent]
  constructor
  · rintro ⟨issue, hissue, hname, hkind⟩ hnone
    obtain ⟨c, hc, -⟩ | ⟨e, hwords⟩ :=
      exists_complaint_of_issue hv hdata hschema hverdict hissue hf hname
    · rw [hnone] at hc
      cases hc
    · exact hkind hwords.kind_eq
  · intro hsome
    obtain ⟨c, hc⟩ := Option.ne_none_iff_exists'.mp hsome
    obtain ⟨issue, hissue, hwords⟩ := exists_issue_of_complaint hv hdata hverdict hf hc
    obtain ⟨reported, hreported, hfield, -⟩ := hwords.path_eq
    obtain rfl : name = reported := Option.some.inj hreported
    exact ⟨issue, hissue, hfield, hwords.kind_eq ▸ kind_ne_of_complaint? hc⟩

end Field

end Reports

/-! ### What is checked -/

section Checks

variable {known : Option (List String)} {v : Validator} {mark : Mark} {s : String} {d : Descriptor}

/-- A check is silent where there is a descriptor to check against. -/
theorem notices_check_iff (hv : v.enabled = true) (value : Value) :
    ((check known v value (.atom mark (.str s))).run ()).notices = [] ↔
      (Descriptor.parse s).isOk = true := by
  unfold check
  rw [if_pos hv]
  simp only [Value.descriptor]
  cases Descriptor.parse s with
  | ok d => exact iff_of_true rfl rfl
  | error m => exact iff_of_false (List.cons_ne_nil _ _) Bool.false_ne_true

/-- The canonical text is checked against as what was declared. -/
theorem check_text (h : Descriptor.parse s = .ok d) (value : Value) :
    check known v value (.str d.text) = check known v value (.atom mark (.str s)) := by
  have hagain : Descriptor.parse d.text = .ok d :=
    Descriptor.parse_text (Descriptor.isWellFormed_of_parse h)
  unfold check
  simp only [Value.descriptor, h, hagain]

/-- Null passes the check where it is accepted. -/
theorem answer_check_nil (hv : v.enabled = true) (h : Descriptor.parse s = .ok d) (nilMark : Mark) :
    (check known v (.atom nilMark .nil) (.atom mark (.str s))).answer = .ok d.nullable := by
  have hnil : (mismatch? known d (.atom nilMark .nil)).isNone = d.nullable := by
    rw [Bool.eq_iff_iff, Option.isNone_iff_eq_none]
    exact mismatch?_of_nil rfl known d
  rw [answer_check_of_parse hv h, matchesDescriptor, hnil]

/-- A sequence passes the check against a typed array when its items pass the check against the
element. -/
theorem answer_check_items {element : Descriptor} {nullable : Bool}
    (h : Descriptor.parse s = .ok (.array element nullable)) {value : Value} {items : List Value}
    (hitems : value.items? = some items) :
    ∃ passed, (check known v value (.atom mark (.str s))).answer = .ok passed ∧
      (passed = true ↔ ∀ item ∈ items, (check known v item (.str element.text)).answer = .ok true) := by
  cases hv : v.enabled with
  | false =>
    have hpasses (value declared : Value) : (check known v value declared).answer = .ok true := by
      rw [check, hv]
      rfl
    exact ⟨true, hpasses _ _, iff_of_true rfl fun item _ => hpasses _ _⟩
  | true =>
    have helement : Descriptor.parse element.text = .ok element :=
      Descriptor.parse_text (Descriptor.isWellFormed_of_parse h :
        (Descriptor.array element nullable).isWellFormed = true)
    refine ⟨_, answer_check_of_parse hv h value mark, ?_⟩
    rw [matchesDescriptor, Option.isNone_iff_eq_none, mismatch?_array_iff hitems]
    refine forall₂_congr fun item _ => ?_
    rw [answer_check_of_parse hv helement, Except.ok.injEq, matchesDescriptor,
      Option.isNone_iff_eq_none]

end Checks

/-! ### What is wrapped -/

/-- A catalog in which a name is known for the type without fields. -/
def Catalog.naming (name : String) : Catalog where
  registries := [[(name, .type 0)]]

/-- Behind any number of arrays, a mapping at a reference may turn into a record. -/
theorem exists_wrap_changes {d : Descriptor} {target : String} (h : d.referenced? = some target)
    (mode : Mode) :
    ∃ v w, (wrap (Catalog.naming target) mode (some 0) d v).answer = .ok w ∧ v.equal w = false := by
  suffices hparts : ∃ v w, settled (Catalog.naming target) mode (some 0) false d v = .ok w ∧
      v.equalAs false w = false ∧ ∀ mark a, v ≠ .atom mark a by
    obtain ⟨v, w, hw, hne, hparts⟩ := hparts
    refine ⟨v, w, by rw [answer_wrap, hw], ?_⟩
    cases v with
    | atom mark a => exact absurd rfl (hparts mark a)
    | _ => exact hne
  induction d with
  | named name nullable =>
    have hname : Descriptor.categoryOfName name = .reference ∧ name = target := by
      simpa [Descriptor.referenced?] using h
    obtain ⟨hreference, rfl⟩ := hname
    have hwrapping : (Catalog.naming name).wrapping? (some 0) (.named name nullable) =
        some (.build name (.type 0)) := by
      rw [Catalog.wrapping?_named, if_pos hreference]
      simp [Catalog.naming, Catalog.registryAt, Registry.find?]
    let blank := (Catalog.naming name).blank 0 mode ((Catalog.naming name).defaultSetup 0)
    refine ⟨.dict none [], .record none { blank.header with valid := true } [], ?_, rfl, by simp⟩
    rw [settled_build hwrapping rfl]
    rfl
  | array element nullable ih =>
    obtain ⟨v, w, hw, hne, -⟩ := ih h
    obtain ⟨mark, -, hlist⟩ := @settled_list_array (Catalog.naming target) mode (some 0) false none
      [v] element nullable
    refine ⟨.list none [v], .list mark [w], ?_, ?_, by simp⟩
    · rw [hlist, settledItems_cons_eq_ok.mpr ⟨w, [], hw, rfl, rfl⟩]
      rfl
    · simp [Value.equalAs, equalItems, oneObject, hne]

/-- Where no schema is referred to, nothing is wrapped. -/
theorem answer_wrap_of_no_reference {d : Descriptor} (h : d.referenced? = none) (cat : Catalog)
    (mode : Mode) (registry : Option RegistryId) (v : Value) :
    (wrap cat mode registry d v).answer = .ok v := by
  have hnone : cat.wrapping? registry d = none := by rw [Catalog.wrapping?, h]; rfl
  rw [answer_wrap, settled_of_none hnone]
  rfl

/-! ### Descriptions -/

/-- What holds of the issues in every full report on some data by the schema of a type. -/
def RecordType.EveryReport (t : RecordType) (es : Entries Value) (P : List Issue → Prop) : Prop :=
  ∀ (known : Option (List String)) (v : Validator) (data : Value) (mode : Mode)
    (label : Option String) (verdict : Verdict),
    v.enabled = true → data.entries? = some es →
    (collect known v data t.effectiveSchema mode label).answer = .ok verdict → P verdict.issues

/-- What a description says of a field that a type declares is what becomes of the field.

* A descriptor is valid where checks against it log nothing, and where no report on any data calls it
  malformed.
* Null is accepted where it passes the check, and where the absence of the field is not reported.
* The text of a valid descriptor is checked against as what was declared.
* The field is a reference where the innermost element of its arrays is one. Else wrapping leaves all
  values as they are; at a reference there are values that it changes.
* An element is given for the typed arrays. A sequence passes the check when its items pass the check
  against the element.
* The field comes from the extensions where it is declared as they declare it. -/
structure FieldDescription.Agrees (desc : FieldDescription) (t : RecordType) (name : String)
    (declared : Value) : Prop where
  silent_iff : ∀ (known : Option (List String)) (v : Validator) (value : Value), v.enabled = true →
    (((check known v value declared).run ()).notices = [] ↔ desc.isValidDescriptor = true)
  malformed_iff : ∀ es, t.EveryReport es fun issues =>
    (∃ issue ∈ issues, issue.IsMalformed name) ↔ desc.isValidDescriptor = false
  null_iff : ∀ (known : Option (List String)) (v : Validator) (mark : Mark), v.enabled = true →
    (check known v (.atom mark .nil) declared).answer = .ok desc.isNullable
  absence_iff : ∀ es, es.has (.str name) = false → t.EveryReport es fun issues =>
    (∃ issue ∈ issues, issue.field = some name ∧ issue.kind ≠ .unexpectedField) ↔
      desc.isNullable = false
  text_stands : desc.isValidDescriptor = true → ∀ (known : Option (List String)) (v : Validator)
    (value : Value), check known v value (.str desc.type) = check known v value declared
  reference_iff : desc.isReference = true ↔
    ∃ d, declared.descriptor = .ok d ∧ d.innermost.isReference = true
  stands : desc.isReference = false → ∀ d, declared.descriptor = .ok d →
    ∀ (cat : Catalog) (mode : Mode) (registry : Option RegistryId) (value : Value),
      (wrap cat mode registry d value).answer = .ok value
  changes : desc.isReference = true → ∀ d, declared.descriptor = .ok d → ∀ mode : Mode,
    ∃ (cat : Catalog) (registry : Option RegistryId) (value w : Value),
      (wrap cat mode registry d value).answer = .ok w ∧ value.equal w = false
  element_iff : desc.elementType.isSome = true ↔
    ∃ d, declared.descriptor = .ok d ∧ d.category = .array
  items_iff : ∀ element, desc.elementType = some element →
    ∀ (known : Option (List String)) (v : Validator) (value : Value) (items : List Value),
      value.items? = some items →
      ∃ passed, (check known v value declared).answer = .ok passed ∧
        (passed = true ↔
          ∀ item ∈ items, (check known v item (.str element)).answer = .ok true)
  origin_iff : desc.origin = .extension ↔ t.extensions.find? (.str name) = some declared

/-- What a field of a type is described as. -/
def RecordType.describeFieldOf (t : RecordType) (f : Key × Value) : FieldDescription :=
  describeField f.2 (t.baseSchema.has f.1)
    (if t.extensions.has f.1 then .extension else .base)

section Described

variable {t : RecordType} {base : Bool} {origin : Origin} {mark : Mark} {s : String}
  {d : Descriptor}

theorem describeField_of_ok (h : Descriptor.parse s = .ok d) :
    describeField (.atom mark (.str s)) base origin =
      { type := d.text, isNullable := d.nullable, isArray := d.isArray,
        elementType := d.element?.map Descriptor.text, isReference := d.referenced?.isSome,
        isBaseField := base, origin := origin } := by
  simp only [describeField, Value.readDescriptor, h]

theorem describeField_of_error {m : Descriptor.Malformed} (h : Descriptor.parse s = .error m) :
    describeField (.atom mark (.str s)) base origin =
      { type := s, isValidDescriptor := false, isBaseField := base, origin := origin } := by
  simp only [describeField, Value.readDescriptor, h]
  rfl

@[simp] theorem origin_describeField (declared : Value) (base : Bool) (origin : Origin) :
    (describeField declared base origin).origin = origin := by
  unfold describeField
  split <;> rfl

/-- A field is taken from the extensions where they have it, and then with what they declare. -/
theorem find?_extensions_iff (hbase : t.baseSchema.IsTextual) (hextensions : t.extensions.IsTextual)
    {field : Key} {declared : Value} (hf : (field, declared) ∈ t.effectiveSchema) :
    t.extensions.has field = true ↔ t.extensions.find? field = some declared := by
  have heffective := RecordType.isTextual_effectiveSchema hbase hextensions
  have hfind : t.effectiveSchema.find? field = some declared :=
    heffective.distinct.find?_of_mem hf (Key.same_refl field)
  rw [RecordType.effectiveSchema, Entries.find?_putAll_of_distinct hextensions.distinct] at hfind
  rw [Entries.has]
  cases hown : t.extensions.find? field with
  | none => simp
  | some w =>
    rw [hown, Option.some_or] at hfind
    simpa using hfind

/-- The description names the extensions where the field is declared as they declare it. -/
theorem origin_describeFieldOf_iff (hbase : t.baseSchema.IsTextual)
    (hextensions : t.extensions.IsTextual) {keyMark : Mark} {name : String} {declared : Value}
    (hf : (.atom keyMark (.str name), declared) ∈ t.effectiveSchema) :
    (t.describeFieldOf (.atom keyMark (.str name), declared)).origin = .extension ↔
      t.extensions.find? (.str name) = some declared := by
  have hsame : Key.same (.atom keyMark (.str name)) (.str name) = true := by
    simp [Key.same, Key.canon]
  rw [← Entries.find?_congr hsame, ← find?_extensions_iff hbase hextensions hf,
    RecordType.describeFieldOf, origin_describeField]
  cases t.extensions.has (.atom keyMark (.str name)) <;> simp

section Declared

variable {keyMark : Mark} {name : String} {m : Descriptor.Malformed}

theorem describeFieldOf_agrees_of_error (hparse : Descriptor.parse s = .error m)
    (hbase : t.baseSchema.IsTextual) (hextensions : t.extensions.IsTextual)
    (hf : (.atom keyMark (.str name), .atom mark (.str s)) ∈ t.effectiveSchema) :
    (t.describeFieldOf (.atom keyMark (.str name), .atom mark (.str s))).Agrees t name
      (.atom mark (.str s)) := by
  have heffective := RecordType.isTextual_effectiveSchema hbase hextensions
  have hdescriptor : (Value.atom mark (.str s)).descriptor = .error m := hparse
  have horigin := origin_describeFieldOf_iff hbase hextensions hf
  rw [RecordType.describeFieldOf, describeField_of_error hparse] at horigin ⊢
  exact {
    silent_iff := fun known v value hv => by
      rw [notices_check_iff hv, hparse]
      exact Iff.rfl
    malformed_iff := fun es known v data mode label verdict hv hdata hverdict => by
      refine (exists_isMalformed_iff hv hdata heffective hverdict hf).trans ?_
      rw [hdescriptor]
      simp [Except.isOk, Except.toBool]
    null_iff := fun known v nilMark hv => by rw [answer_check hv, hparse]
    absence_iff := fun es hhas known v data mode label verdict hv hdata hverdict => by
      refine (absence_reported_iff hv hdata heffective hverdict hf hhas).trans ?_
      rw [hdescriptor]
      simp
    text_stands := fun h => by cases h
    reference_iff := by simp [hdescriptor]
    stands := fun _ d hd => by rw [hdescriptor] at hd; cases hd
    changes := fun h => by cases h
    element_iff := by simp [hdescriptor]
    items_iff := fun _ h => by cases h
    origin_iff := horigin }

theorem describeFieldOf_agrees_of_ok (hparse : Descriptor.parse s = .ok d)
    (hbase : t.baseSchema.IsTextual) (hextensions : t.extensions.IsTextual)
    (hf : (.atom keyMark (.str name), .atom mark (.str s)) ∈ t.effectiveSchema) :
    (t.describeFieldOf (.atom keyMark (.str name), .atom mark (.str s))).Agrees t name
      (.atom mark (.str s)) := by
  have heffective := RecordType.isTextual_effectiveSchema hbase hextensions
  have hdescriptor : (Value.atom mark (.str s)).descriptor = .ok d := hparse
  have horigin := origin_describeFieldOf_iff hbase hextensions hf
  rw [RecordType.describeFieldOf, describeField_of_ok hparse] at horigin ⊢
  exact {
    silent_iff := fun known v value hv => by
      rw [notices_check_iff hv, hparse]
      exact Iff.rfl
    malformed_iff := fun es known v data mode label verdict hv hdata hverdict => by
      refine (exists_isMalformed_iff hv hdata heffective hverdict hf).trans ?_
      rw [hdescriptor]
      simp [Except.isOk, Except.toBool]
    null_iff := fun known v nilMark hv => answer_check_nil hv hparse nilMark
    absence_iff := fun es hhas known v data mode label verdict hv hdata hverdict => by
      refine (absence_reported_iff hv hdata heffective hverdict hf hhas).trans ?_
      rw [hdescriptor]
      simp
    text_stands := fun _ known v value => check_text hparse value
    reference_iff := by simp [hdescriptor, d.isSome_referenced?]
    stands := fun hreference d' hd' cat mode registry value => by
      obtain rfl : d = d' := Except.ok.inj (hdescriptor.symm.trans hd')
      exact answer_wrap_of_no_reference (by simpa using hreference) cat mode registry value
    changes := fun hreference d' hd' mode => by
      obtain rfl : d = d' := Except.ok.inj (hdescriptor.symm.trans hd')
      obtain ⟨target, htarget⟩ := Option.isSome_iff_exists.mp hreference
      exact ⟨_, _, exists_wrap_changes htarget mode⟩
    element_iff := by simp [hdescriptor, ← d.isSome_element?_iff]
    items_iff := fun text helement known v value items hitems => by
      cases d with
      | named name nullable => cases helement
      | array element nullable =>
        obtain rfl := Option.some.inj helement
        exact answer_check_items hparse hitems
    origin_iff := horigin }

/-- The description of a declared field agrees with what becomes of it. -/
theorem describeFieldOf_agrees (hbase : t.baseSchema.IsTextual)
    (hextensions : t.extensions.IsTextual)
    (hf : (.atom keyMark (.str name), .atom mark (.str s)) ∈ t.effectiveSchema) :
    (t.describeFieldOf (.atom keyMark (.str name), .atom mark (.str s))).Agrees t name
      (.atom mark (.str s)) := by
  cases hparse : Descriptor.parse s with
  | error m => exact describeFieldOf_agrees_of_error hparse hbase hextensions hf
  | ok d => exact describeFieldOf_agrees_of_ok hparse hbase hextensions hf

end Declared

end Described

/-! ### The description of a type -/

/-- A mapping from texts to texts is listed as it is. -/
theorem listing_of_texts {schema : Schema} (h : schema.IsTextual) :
    listing schema = .ok (schema.map fun f => (f.1.plainText, f.2.plainText)) := by
  have hnodup : ((schema.map fun f => (f.1.plainText, f.2.plainText)).map Prod.fst).Nodup := by
    rw [List.map_map]
    exact nodup_plainText h.fields h.distinct
  unfold listing
  rw [Act.mapM_eq_ok (g := fun f : Key × Value => (f.1.plainText, f.2.plainText)) fun f hf => ?_]
  · exact congrArg Except.ok (Named.ofList_of_nodup hnodup)
  · obtain ⟨mark, name, hname⟩ := h.fields f hf
    obtain ⟨mark', s, hs⟩ := h.texts f hf
    rw [hname, hs]
    rfl

/-- A type is described field by field, in the order of its schema. -/
theorem describe_of_texts {t : RecordType} (hbase : t.baseSchema.IsTextual)
    (hextensions : t.extensions.IsTextual) :
    ∃ desc, describe t = .ok desc ∧
      desc.fields = t.effectiveSchema.map fun f => (f.1.plainText, t.describeFieldOf f) := by
  have heffective := RecordType.isTextual_effectiveSchema hbase hextensions
  have hnodup : ((t.effectiveSchema.map fun f => (f.1.plainText, t.describeFieldOf f)).map
      Prod.fst).Nodup := by
    rw [List.map_map]
    exact nodup_plainText heffective.fields heffective.distinct
  unfold describe
  rw [Act.mapM_eq_ok (g := fun f => (f.1.plainText, t.describeFieldOf f)) fun f hf => ?_,
    listing_of_texts hbase, listing_of_texts hextensions]
  · exact ⟨_, rfl, Named.ofList_of_nodup hnodup⟩
  · obtain ⟨mark, name, hname⟩ := heffective.fields f hf
    rw [RecordType.describeFieldOf, hname]
    rfl

/-- A type that declares texts, malformed ones among them, and is extended by texts has a description.
It lists the fields that records of the type are held to, in their order, and says of each what becomes
of it: in checks, in the reports on any data, and in wrapping. On data of texts that can be written
there is always a report. -/
theorem description_agrees {t : RecordType} (hbase : t.baseSchema.IsTextual)
    (hextensions : t.extensions.IsTextual) :
    (∃ desc, describe t = .ok desc ∧
      List.Forall₂ (fun f entry => f.1.plainText = entry.1 ∧ entry.2.Agrees t entry.1 f.2)
        t.effectiveSchema desc.fields) ∧
    ∀ (known : Option (List String)) (v : Validator) (data : Value) (es : Entries Value)
      (mode : Mode) (label : Option String), v.enabled = true → data.entries? = some es →
      (∀ e ∈ es, e.1.IsText ∧ e.2.isWritable = true) →
        ∃ verdict, (collect known v data t.effectiveSchema mode label).answer = .ok verdict := by
  have heffective := RecordType.isTextual_effectiveSchema hbase hextensions
  refine ⟨?_, fun known v data es mode label hv hdata hentries => ?_⟩
  · obtain ⟨desc, hdesc, hfields⟩ := describe_of_texts hbase hextensions
    refine ⟨desc, hdesc, ?_⟩
    rw [hfields, List.forall₂_map_right_iff, List.forall₂_same]
    intro f hf
    obtain ⟨keyMark, name, hname⟩ := heffective.fields f hf
    obtain ⟨mark, s, hs⟩ := heffective.texts f hf
    obtain ⟨field, declared⟩ := f
    obtain rfl : field = .atom keyMark (.str name) := hname
    obtain rfl : declared = .atom mark (.str s) := hs
    exact ⟨rfl, describeFieldOf_agrees hbase hextensions hf⟩
  · refine (collectAnswers_iff hv).mpr ?_
    by_cases hschema : t.effectiveSchema = []
    · obtain ⟨issue, hissue⟩ :=
        @findings_of_no_entries known data t.effectiveSchema mode (.inl hschema) v.excerpt
      rw [hissue]
      exact List.forall_mem_singleton.mpr rfl
    · rw [findings_eq_map_faults hschema hdata, List.forall_mem_map]
      intro fault hfault
      rw [Fault.isOk_finding]
      refine fault.canBeShown_of_texts (fun f hf => ⟨heffective.fields f hf, ?_⟩) hentries hfault
      obtain ⟨mark, s, hs⟩ := heffective.texts f hf
      rw [hs]
      rfl

/-- Baskets, whose label has become optional and whose lid is new. The handle is declared wrongly. -/
def basket : RecordType where
  className := "Basket"
  schemaName := "Basket"
  baseSchema := [(.str "fruit", .str "Array< Fruit? >"), (.str "label", .str "String"),
    (.str "handle", .str "Array<>")]
  extensions := [(.str "label", .str "String?"), (.str "lid", .str "bool")]

theorem isTextual_basket : basket.baseSchema.IsTextual ∧ basket.extensions.IsTextual := by
  refine ⟨⟨?_, ?_, ?_⟩, ?_, ?_, ?_⟩ <;> simp [Entries.Distinct, basket, Key.IsText]

/-- The fruit in a basket is an array of references, the label comes from the extensions, and the handle
is reported as malformed wherever baskets are checked. -/
theorem basket_description_agrees :
    ∃ fruit label handle lid desc, describe basket = .ok desc ∧
      desc.fields = [("fruit", fruit), ("label", label), ("handle", handle), ("lid", lid)] ∧
      fruit.elementType = some "Fruit?" ∧ fruit.Agrees basket "fruit" (.str "Array< Fruit? >") ∧
      label.origin = .extension ∧ label.Agrees basket "label" (.str "String?") ∧
      handle.isValidDescriptor = false ∧ handle.Agrees basket "handle" (.str "Array<>") ∧
      ∃ verdict, (collect none {} (.dict none []) basket.effectiveSchema .loose none).answer =
          .ok verdict ∧
        ∃ issue ∈ verdict.issues, issue.IsMalformed "handle" := by
  obtain ⟨⟨desc, hdesc, hagree⟩, hreports⟩ :=
    description_agrees isTextual_basket.1 isTextual_basket.2
  have hschema : basket.effectiveSchema =
      [(.str "fruit", .str "Array< Fruit? >"), (.str "label", .str "String?"),
        (.str "handle", .str "Array<>"), (.str "lid", .str "bool")] := rfl
  obtain ⟨desc', hdesc', hshown⟩ : ∃ desc', describe basket = .ok desc' ∧
      ((desc'.fields.map fun e => (e.2.elementType, e.2.origin, e.2.isValidDescriptor)) ==
        [(some "Fruit?", .base, true), (none, .extension, true), (none, .base, false),
          (none, .extension, true)]) = true := Act.exists_of_passes (by decide +kernel)
  obtain rfl : desc = desc' := Except.ok.inj (hdesc.symm.trans hdesc')
  rw [hschema] at hagree
  obtain ⟨⟨_, fruit⟩, _, ⟨rfl, hfruit⟩, hothers, hfields⟩ := List.forall₂_cons_left_iff.mp hagree
  obtain ⟨⟨_, label⟩, _, ⟨rfl, hlabel⟩, hlast, rfl⟩ := List.forall₂_cons_left_iff.mp hothers
  obtain ⟨⟨_, handle⟩, _, ⟨rfl, hhandle⟩, hlid, rfl⟩ := List.forall₂_cons_left_iff.mp hlast
  obtain ⟨⟨_, lid⟩, _, ⟨rfl, -⟩, hend, rfl⟩ := List.forall₂_cons_left_iff.mp hlid
  obtain rfl := List.forall₂_nil_left_iff.mp hend
  rw [hfields] at hshown
  obtain ⟨⟨helement, -⟩, ⟨-, horigin, -⟩, ⟨-, -, hvalid⟩, -⟩ := by
    simpa only [List.map_cons, List.map_nil, beq_iff_eq, List.cons.injEq, Prod.mk.injEq] using hshown
  obtain ⟨verdict, hverdict⟩ := hreports none {} (.dict none []) [] .loose none rfl rfl
    (List.forall_mem_nil _)
  have hissue := (hhandle.malformed_iff [] none {} _ .loose none verdict rfl rfl hverdict).mpr hvalid
  exact ⟨fruit, label, handle, lid, desc, hdesc, hfields, helement, hfruit, horigin, hlabel, hvalid,
    hhandle, verdict, hverdict, hissue⟩

end TypedRecord
