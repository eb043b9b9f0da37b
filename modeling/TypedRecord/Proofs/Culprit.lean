import TypedRecord.Proofs.Matches
import TypedRecord.Proofs.Reporting

/-!
# TypedRecord.Proofs.Culprit

Where a report says that a value goes wrong.

An issue about a field leads from the field to the place of the mismatch, by the positions in the
arrays on the way. The value at that place is itself to blame, no part of it is, and it is the first
such value in the order in which arrays are gone through. `Blames` is that relation, built from the
inside out; `blames_of_mismatch?` says that the search answers nothing else, by induction on the
descriptor, and `issue_blames_first_culprit` reads the way in an issue by it.
-/

namespace TypedRecord

/-! ### The way into a value -/

/-- What is found in a value at some positions, from the outside to the inside. -/
def Value.at? : Value → List Nat → Option Value
  | v, [] => some v
  | v, i :: rest => do
    let items ← v.items?
    let item ← items[i]?
    item.at? rest

/-- What is left of a descriptor inside some typed arrays. -/
def Descriptor.inside? : Descriptor → Nat → Option Descriptor
  | d, 0 => some d
  | d, n + 1 => do
    let element ← d.element?
    element.inside? n

section Blame

variable (cat : Catalog) (registry : Option RegistryId)

/-- A value is to blame itself for not matching: it is null and must not be, it is no sequence where a
typed array is asked for, or it is not what a name asks for. -/
inductive IsCulprit : Descriptor → Value → Prop
  | null {d : Descriptor} {v : Value} (hv : v.kind = .nil) (hd : d.nullable = false) : IsCulprit d v
  | notSequence {element : Descriptor} {nullable : Bool} {v : Value} (hv : v.kind ≠ .nil)
      (hitems : v.items? = none) : IsCulprit (.array element nullable) v
  | name {name : String} {nullable : Bool} {v : Value} (hv : v.kind ≠ .nil)
      (hasks : ¬ NameAsks cat registry name v) : IsCulprit (.named name nullable) v

/-- Some positions lead from a value to the first culprit in it, and to what it should have matched. -/
inductive Blames : Descriptor → Value → List Nat → Descriptor → Value → Prop
  | here {d : Descriptor} {v : Value} (h : IsCulprit cat registry d v) : Blames d v [] d v
  | inside {element d : Descriptor} {nullable : Bool} {v item culprit : Value}
      {before after : List Value} {rest : List Nat}
      (hitems : v.items? = some (before ++ item :: after))
      (hbefore : ∀ earlier ∈ before, Matches cat registry element earlier)
      (hrest : Blames element item rest d culprit) :
      Blames (.array element nullable) v (before.length :: rest) d culprit

/-- The value at some positions is the first culprit in a value: every step but the last is in a
sequence, all items before the one stepped into match, and the value at the end is to blame. -/
structure IsFirstCulprit (d : Descriptor) (v : Value) (positions : List Nat) (inner : Descriptor)
    (culprit : Value) : Prop where
  reached : v.at? positions = some culprit
  inside : d.inside? positions.length = some inner
  toBlame : IsCulprit cat registry inner culprit
  fails : ¬ Matches cat registry inner culprit
  before : ∀ outer i rest, positions = outer ++ i :: rest →
    ∃ sequence items element, v.at? outer = some sequence ∧ sequence.items? = some items ∧
      d.inside? (outer.length + 1) = some element ∧
      ∀ n < i, ∀ earlier, items[n]? = some earlier → Matches cat registry element earlier

end Blame

section Blame

variable {cat : Catalog} {registry : Option RegistryId} {d element inner : Descriptor}
  {v culprit : Value} {positions : List Nat}

theorem IsCulprit.not_matches (h : IsCulprit cat registry d v) : ¬ Matches cat registry d v := by
  cases h with
  | null hv hd => simp [matches_of_nil hv, hd]
  | notSequence hv hitems => simp [matches_array_iff hv, hitems]
  | name hv hasks => rwa [matches_named_iff hv]

/-- The place of a culprit, step by step. -/
theorem Blames.isFirstCulprit (h : Blames cat registry d v positions inner culprit) :
    IsFirstCulprit cat registry d v positions inner culprit := by
  induction h with
  | here h =>
    refine ⟨rfl, rfl, h, h.not_matches, fun outer i rest hsplit => ?_⟩
    simp at hsplit
  | @inside element d nullable v item culprit before after rest hitems hbefore _ ih =>
    have hitem : (before ++ item :: after)[before.length]? = some item := by simp
    refine ⟨?_, ?_, ih.toBlame, ih.fails, fun outer i rest' hsplit => ?_⟩
    · simp [Value.at?, hitems, ih.reached]
    · simp [Descriptor.inside?, Descriptor.element?, ih.inside]
    · -- A split of the way has its step in this sequence, or further inside.
      cases outer with
      | nil =>
        obtain ⟨rfl, -⟩ := List.cons.inj hsplit
        refine ⟨v, _, element, rfl, hitems, rfl, fun n hn earlier hearlier => ?_⟩
        rw [List.getElem?_append_left hn] at hearlier
        exact hbefore _ (List.mem_of_getElem? hearlier)
      | cons first outer =>
        obtain ⟨rfl, hrest⟩ := List.cons.inj hsplit
        obtain ⟨sequence, items, inner', hat, hsequence, hinner, hearlier⟩ :=
          ih.before outer i rest' hrest
        exact ⟨sequence, items, inner', by simp [Value.at?, hitems, hat], hsequence,
          by simpa [Descriptor.inside?, Descriptor.element?] using hinner, hearlier⟩

end Blame

/-! ### The search -/

/-- The schema that a value is asked to be bound to although there is none of that name. -/
def unknownSchema? (known : Option (List String)) (d : Descriptor) (v : Value) : Option String :=
  match d with
  | .array _ _ => none
  | .named name _ =>
    if v.kind ≠ .nil ∧ Descriptor.categoryOfName name = .reference ∧ knows known name = false
    then some name else none

section Search

variable {known : Option (List String)} {d element : Descriptor} {v : Value} {m : Mismatch}

theorem mismatch?_named (hv : v.kind ≠ .nil) (name : String) (nullable : Bool) :
    mismatch? known (.named name nullable) v = nameMismatch? known name nullable v := by
  cases v with
  | atom mark a => cases a <;> first | rfl | exact absurd rfl hv
  | _ => rfl

theorem mismatch?_array_of_items {items : List Value} (h : v.items? = some items)
    (nullable : Bool) :
    mismatch? known (.array element nullable) v = itemMismatch? known element 0 items := by
  cases v <;> simp_all [Value.items?, mismatch?]

theorem mismatch?_array_of_other (hv : v.kind ≠ .nil) (h : v.items? = none) (nullable : Bool) :
    mismatch? known (.array element nullable) v =
      some ⟨[], .array element nullable, v.kindName, none⟩ := by
  cases v with
  | atom mark a => cases a <;> first | rfl | exact absurd rfl hv
  | list mark items | @tuple form mark items => simp [Value.items?] at h
  | _ => rfl

/-- The mismatch among some items is that of the first item with a mismatch. -/
theorem itemMismatch?_eq_some {position : Nat} {items : List Value}
    (h : itemMismatch? known element position items = some m) :
    ∃ before item after inner, items = before ++ item :: after ∧
      (∀ earlier ∈ before, mismatch? known element earlier = none) ∧
      mismatch? known element item = some inner ∧ m = inner.under (position + before.length) := by
  induction items generalizing position with
  | nil => simp [itemMismatch?] at h
  | cons item items ih =>
    cases hitem : mismatch? known element item with
    | some inner =>
      simp only [itemMismatch?, hitem, Option.some.injEq] at h
      exact ⟨[], item, items, inner, rfl, by simp, hitem, h.symm⟩
    | none =>
      simp only [itemMismatch?, hitem] at h
      obtain ⟨before, culprit, after, inner, rfl, hbefore, hinner, rfl⟩ := ih h
      refine ⟨item :: before, culprit, after, inner, rfl,
        List.forall_mem_cons.mpr ⟨hitem, hbefore⟩, hinner, ?_⟩
      rw [List.length_cons, Nat.add_right_comm, Nat.add_assoc]

end Search

section Search

variable {cat : Catalog} {registry : Option RegistryId} {d : Descriptor} {v : Value} {m : Mismatch}

/-- The mismatch of null is null itself. -/
theorem mismatch?_eq_some_of_nil (hv : v.kind = .nil) {known : Option (List String)}
    (h : mismatch? known d v = some m) :
    d.nullable = false ∧ m = ⟨[], d, v.kindName, unknownSchema? known d v⟩ := by
  obtain ⟨mark, rfl⟩ := v.kind_eq_nil_iff.mp hv
  cases hnull : d.nullable with
  | true => cases d <;> simp_all [mismatch?, Descriptor.nullable]
  | false =>
    refine ⟨rfl, ?_⟩
    cases d <;> simp_all [mismatch?, Descriptor.nullable, unknownSchema?] <;> exact h.symm

/-- The mismatch of a value is the value itself, which is to blame, or that of its items. -/
theorem mismatch?_eq_some (h : mismatch? (cat.known registry) d v = some m) :
    (IsCulprit cat registry d v ∧
        m = ⟨[], d, v.kindName, unknownSchema? (cat.known registry) d v⟩) ∨
      ∃ element nullable items, d = .array element nullable ∧ v.items? = some items ∧
        itemMismatch? (cat.known registry) element 0 items = some m := by
  by_cases hnil : v.kind = .nil
  · -- Null is to blame itself, also where an array is asked for.
    obtain ⟨hnull, hm⟩ := mismatch?_eq_some_of_nil hnil h
    exact .inl ⟨.null hnil hnull, hm⟩
  cases d with
  | named name nullable =>
    have hasks : ¬ NameAsks cat registry name v := by
      rw [← matches_named_iff hnil name nullable, ← mismatch?_eq_none_iff, h]
      simp
    have hmatches : nameMatches (cat.known registry) name v = false := by
      rwa [← nameMatches_iff, Bool.not_eq_true] at hasks
    refine .inl ⟨.name hnil hasks, ?_⟩
    rw [mismatch?_named hnil, nameMismatch?, if_neg (by simp [hmatches])] at h
    simp only [← Option.some.inj h, unknownSchema?, hnil, Bool.and_eq_true, decide_eq_true_eq,
      Bool.not_eq_true', ne_eq, not_false_eq_true, true_and]
  | array element nullable =>
    cases hitems : v.items? with
    | none =>
      rw [mismatch?_array_of_other hnil hitems] at h
      exact .inl ⟨.notSequence hnil hitems, (Option.some.inj h).symm⟩
    | some items =>
      rw [mismatch?_array_of_items hitems] at h
      exact .inr ⟨element, nullable, items, rfl, rfl, h⟩

/-- What the search answers: the first culprit, what it should have matched and of what kind it is. -/
theorem blames_of_mismatch? (h : mismatch? (cat.known registry) d v = some m) :
    ∃ culprit, Blames cat registry d v m.path m.expected culprit ∧ m.actual = culprit.kindName ∧
      m.unknown = unknownSchema? (cat.known registry) m.expected culprit := by
  induction d generalizing v m with
  | named name nullable =>
    obtain ⟨hculprit, rfl⟩ | ⟨_, _, _, hd, _⟩ := mismatch?_eq_some h
    · exact ⟨v, .here hculprit, rfl, rfl⟩
    · cases hd
  | array element nullable ih =>
    obtain ⟨hculprit, rfl⟩ | ⟨_, _, items, hd, hitems, h⟩ := mismatch?_eq_some h
    · exact ⟨v, .here hculprit, rfl, rfl⟩
    · cases hd
      obtain ⟨before, item, after, inner, rfl, hbefore, hinner, rfl⟩ := itemMismatch?_eq_some h
      obtain ⟨culprit, hblames, hactual, hunknown⟩ := ih hinner
      refine ⟨culprit, ?_, hactual, hunknown⟩
      simp only [Mismatch.under, Nat.zero_add]
      exact .inside hitems (fun earlier he => (mismatch?_eq_none_iff _ _).mp (hbefore earlier he))
        hblames

end Search

/-! ### What an issue says -/

theorem Shape.text_eq_ok_iff {v : Value} {s : String} :
    Shape.text v = .ok s ↔ v.reportable? = some s := by
  unfold Shape.text Shape.textIn
  cases hv : v.reportable? with
  | some t => simp [Shape.reading]
  | none => split <;> simp_all [Shape.reading, Shape.refuse]

/-- A field is reported by its text. -/
theorem reportable?_of_reportedField {field : Key} {name : String}
    (h : reportedField field = .ok name) : field.reportable? = some name := by
  have hsome : field.reportable?.isSome = true := by rw [← isOk_reportedField, h]; rfl
  obtain ⟨s, hs⟩ := Option.isSome_iff_exists.mp hsome
  have hnil : field ≠ .atom none .nil := by rintro rfl; cases hs
  have htext : Shape.text (Value.ofKey field) = .ok s := by
    rw [Shape.text_eq_ok_iff, Value.reportable?_ofKey, hs]
  have hread : reportedField field = .ok s := by
    simp only [reportedField, if_neg hnil, htext]
    cases Shape.number (.ofKey field) <;> simp [Shape.both, Except.map]
  rw [hs, ← Except.ok.inj (hread.symm.trans h)]

/-- An issue says of a field what a complaint says. -/
structure Issue.Says (issue : Issue) (c : Complaint) (field : Key) : Prop where
  kind_eq : issue.kind = c.kind
  message_eq : issue.message = c.message
  expected_eq : issue.expected = c.expected
  actual_eq : issue.actual = c.actual
  path_eq : ∃ name, field.reportable? = some name ∧ issue.field = some name ∧
    issue.path = .field name :: c.positions.map .index

theorem Complaint.says_of_finding {c : Complaint} {size : Int} {data : Entries Value}
    {fields : List Key} {field : Key} {issue : Issue}
    (h : c.finding size data fields field = .ok issue) : issue.Says c field := by
  unfold finding at h
  split at h
  · cases h
  · cases hboth : Shape.both (reportedField field)
        (reportedExcerpt (excerpt size data fields field)) with
    | error obstacle => cases obstacle <;> simp [hboth] at h
    | ok reported =>
      obtain ⟨name, context⟩ := reported
      simp only [hboth, Except.ok.injEq] at h
      subst h
      have hname := reportable?_of_reportedField (Shape.both_eq_ok_iff.mp hboth).1
      exact ⟨rfl, rfl, rfl, rfl, name, hname, rfl, rfl⟩

theorem Complaint.says_of_declaredFinding {c : Complaint} {size : Int} {data : Entries Value}
    {fields : List Key} {f : Key × Value} {issue : Issue}
    (h : c.declaredFinding size data fields f = .ok issue) : issue.Says c f.1 := by
  unfold declaredFinding at h
  split at h
  · exact says_of_finding h
  · cases h

section Answers

variable {known : Option (List String)} {v : Validator} {data : Value} {schema : Schema}
  {mode : Mode} {label : Option String} {verdict : Verdict}

/-- A validation answers issues that it found, whether it goes on after the first or not. -/
theorem ok_mem_findings (hv : v.enabled = true)
    (h : (validate known v data schema mode label).answer = .ok verdict ∨
      (collect known v data schema mode label).answer = .ok verdict)
    {issue : Issue} (hissue : issue ∈ verdict.issues) :
    .ok issue ∈ findings known v.excerpt data schema mode := by
  rcases h with h | h
  · rw [answer_validate, if_pos hv] at h
    split at h
    · cases h
      cases hissue
    · cases h
    · next first rest hfound =>
      cases h
      rw [hfound, List.mem_singleton.mp hissue]
      exact List.mem_cons_self
  · rw [answer_collect hv] at h
    cases hissues : issuesOf (findings known v.excerpt data schema mode) with
    | error failure => rw [hissues] at h; cases h
    | ok issues =>
      rw [hissues] at h
      cases h
      rw [issuesOf_eq_ok_iff.mp hissues]
      exact List.mem_map_of_mem hissue

/-- An issue found in a mapping says what is wrong with a declared field or that a key of the data is
not declared. -/
theorem says_of_mem_findings {es : Entries Value} (hdata : data.entries? = some es)
    (hschema : schema ≠ []) {size : Int} {issue : Issue}
    (h : .ok issue ∈ findings known size data schema mode) :
    (∃ f ∈ schema, ∃ c, complaint? known es f.1 f.2 = some c ∧ issue.Says c f.1) ∨
      ∃ e ∈ es, schema.has e.1 = false ∧ issue.Says (undeclaredComplaint e.1 e.2) e.1 := by
  rw [findings_of_entries hschema hdata, List.mem_append] at h
  rcases h with h | h
  · rw [declaredFindings_eq_filterMap] at h
    obtain ⟨f, hf, hfinding⟩ := List.mem_filterMap.mp h
    obtain ⟨c, hc, hissue⟩ := Option.map_eq_some_iff.mp hfinding
    exact .inl ⟨f, hf, c, hc, Complaint.says_of_declaredFinding hissue⟩
  · cases mode with
    | loose => cases h
    | strict =>
      obtain ⟨e, he, hissue⟩ := List.mem_map.mp h
      obtain ⟨hmem, hundeclared⟩ := List.mem_filter.mp he
      exact .inr ⟨e, hmem, by simpa using hundeclared, Complaint.says_of_finding hissue⟩

end Answers

/-! ### The way in an issue -/

/-- What a message ends with: the schema the registry does not know, if the mismatch is of that
kind. -/
def unknownPart : Option String → String
  | some schema => ": unknown schema '" ++ schema ++ "'"
  | none => ""

/-- The message about a value with something wrong inside it names the place, what was expected there
and what was found. -/
theorem mismatchMessage_of_path (field : Key) (d : Descriptor) (v : Value) {m : Mismatch}
    (h : m.path ≠ []) :
    mismatchMessage field d v m =
      "Field '" ++ field.plainText ++ "' expected " ++ d.text ++ ", got " ++ v.kindName ++
        (" (element " ++ String.join (m.path.map positionText) ++ " expected " ++ m.expected.text ++
          ", got " ++ m.actual ++ ")") ++ unknownPart m.unknown := by
  unfold mismatchMessage
  rw [if_neg h]
  cases m.unknown <;> rfl

/-- Of fields that are texts only one is reported by a name. -/
theorem eq_of_reportable? {schema : Schema} (hfields : ∀ f ∈ schema, f.1.IsText)
    (hdistinct : Entries.Distinct schema) {mark : Mark} {name : String} {declared : Value}
    (hfield : (.atom mark (.str name), declared) ∈ schema) {f : Key × Value} (hf : f ∈ schema)
    (hreported : f.1.reportable? = some name) : f = (.atom mark (.str name), declared) := by
  obtain ⟨mark', s, hkey⟩ := hfields f hf
  rw [hkey] at hreported
  obtain rfl : s = name := Option.some.inj hreported
  exact hdistinct.eq_of_same hf hfield (by rw [hkey]; simp [Key.same, Key.canon])

/-- An issue about a field leads to the first culprit in its value, if the field is the only one that is
reported by its name. -/
theorem exists_firstCulprit_of_issue (cat : Catalog) {v : Validator} (hv : v.enabled = true)
    {data : Value} {es : Entries Value} (hdata : data.entries? = some es)
    (hkeys : ∀ e ∈ es, e.1.IsText) {schema : Schema} {mode : Mode} {label : Option String}
    {verdict : Verdict}
    (hverdict : (validate (cat.known v.registry) v data schema mode label).answer = .ok verdict ∨
      (collect (cat.known v.registry) v data schema mode label).answer = .ok verdict)
    {mark : Mark} {name : String} {declared : Value}
    (hfield : (.atom mark (.str name), declared) ∈ schema)
    (honly : ∀ f ∈ schema, f.1.reportable? = some name → f = (.atom mark (.str name), declared))
    {d : Descriptor} (hd : declared.descriptor = .ok d) {value : Value}
    (hvalue : es.find? (.atom mark (.str name)) = some value) {issue : Issue}
    (hissue : issue ∈ verdict.issues) {positions : List Nat}
    (hpath : issue.path = .field name :: positions.map .index) :
    ∃ inner culprit, IsFirstCulprit cat v.registry d value positions inner culprit ∧
      (positions ≠ [] → issue.message =
        "Field '" ++ name ++ "' expected " ++ d.text ++ ", got " ++ value.kindName ++
          (" (element " ++ String.join (positions.map positionText) ++ " expected " ++ inner.text ++
            ", got " ++ culprit.kindName ++ ")") ++
          unknownPart (unknownSchema? (cat.known v.registry) inner culprit)) := by
  have hschema : schema ≠ [] := List.ne_nil_of_mem hfield
  have hfound := ok_mem_findings hv hverdict hissue
  rcases says_of_mem_findings hdata hschema hfound with
    ⟨f, hf, c, hc, hsaid⟩ | ⟨e, he, hundeclared, hsaid⟩
  · -- The field is declared, and it is the one that the way begins with.
    obtain ⟨reported, hreported, -, hway⟩ := hsaid.path_eq
    rw [hpath] at hway
    obtain ⟨hname, hpositions⟩ := List.cons.inj hway
    obtain rfl : name = reported := PathStep.field.inj hname
    obtain rfl : positions = c.positions :=
      (List.map_inj_right fun _ _ => PathStep.index.inj).mp hpositions
    obtain rfl := honly f hf hreported
    simp only [complaint?, hd, hvalue, Option.map_eq_some_iff] at hc
    obtain ⟨m, hm, rfl⟩ := hc
    obtain ⟨culprit, hblames, hactual, hunknown⟩ := blames_of_mismatch? hm
    refine ⟨m.expected, culprit, hblames.isFirstCulprit, fun hne => ?_⟩
    rw [hsaid.message_eq, ← hactual, ← hunknown]
    exact mismatchMessage_of_path (.atom mark (.str name)) d value hne
  · -- An undeclared key is a text here, so it is reported by another name than a declared one.
    obtain ⟨reported, hreported, -, hway⟩ := hsaid.path_eq
    rw [hpath] at hway
    obtain rfl : name = reported := PathStep.field.inj (List.cons.inj hway).1
    obtain ⟨mark', s, hkey⟩ := hkeys e he
    rw [hkey] at hreported hundeclared
    obtain rfl : s = name := Option.some.inj hreported
    have hdeclared : schema.has (.atom mark' (.str s)) = true :=
      Entries.has_iff.mpr ⟨_, List.mem_map_of_mem hfield, by simp [Key.same, Key.canon]⟩
    rw [hdeclared] at hundeclared
    cases hundeclared

/-- An issue with a way into the value of a field leads to the first culprit in that value, and if it
leads into the value its message names the place, what was expected there and what was found. The
fields of the schema are texts: a byte string is reported by the text that it encodes, which may be the
name of another field (`twinFields_blame_nothing`). -/
theorem issue_blames_first_culprit (cat : Catalog) {v : Validator} (hv : v.enabled = true)
    {data : Value} {es : Entries Value} (hdata : data.entries? = some es)
    (hkeys : ∀ e ∈ es, e.1.IsText) {schema : Schema} (hfields : ∀ f ∈ schema, f.1.IsText)
    (hdistinct : Entries.Distinct schema) {mode : Mode} {label : Option String} {verdict : Verdict}
    (hverdict : (validate (cat.known v.registry) v data schema mode label).answer = .ok verdict ∨
      (collect (cat.known v.registry) v data schema mode label).answer = .ok verdict)
    {mark : Mark} {name : String} {declared : Value}
    (hfield : (.atom mark (.str name), declared) ∈ schema)
    {d : Descriptor} (hd : declared.descriptor = .ok d) {value : Value}
    (hvalue : es.find? (.atom mark (.str name)) = some value) {issue : Issue}
    (hissue : issue ∈ verdict.issues) {positions : List Nat}
    (hpath : issue.path = .field name :: positions.map .index) :
    ∃ inner culprit, IsFirstCulprit cat v.registry d value positions inner culprit ∧
      (positions ≠ [] → issue.message =
        "Field '" ++ name ++ "' expected " ++ d.text ++ ", got " ++ value.kindName ++
          (" (element " ++ String.join (positions.map positionText) ++ " expected " ++ inner.text ++
            ", got " ++ culprit.kindName ++ ")") ++
          unknownPart (unknownSchema? (cat.known v.registry) inner culprit)) := by
  have honly (f : Key × Value) (hf : f ∈ schema) (hreported : f.1.reportable? = some name) :
      f = (.atom mark (.str name), declared) :=
    eq_of_reportable? hfields hdistinct hfield hf hreported
  exact exists_firstCulprit_of_issue cat hv hdata hkeys hverdict hfield honly hd hvalue hissue hpath

/-- Rows of numbers, in the second of which a text stands before another one. -/
def mixedRows : Value :=
  .list none [.list none [.int 1, .nil], @Value.tuple .fixed none [.int 2, .str "x", .str "y"]]

/-- The first of the two texts is to blame, although the second one is no number either. -/
theorem issue_blames_mixedRows :
    ∃ verdict issue,
      (collect none {} (.dict none [(.str "rows", mixedRows)])
        [(.str "rows", .str "Array<Array<int?>>")] .loose none).answer = .ok verdict ∧
      issue ∈ verdict.issues ∧ issue.path = [.field "rows", .index 1, .index 1] ∧
      IsFirstCulprit {} none (.array (.array (.named "int" true) false) false) mixedRows [1, 1]
        (.named "int" true) (.str "x") ∧
      issue.message = "Field 'rows' expected Array<Array<int?>>, got Array " ++
        "(element [1][1] expected int?, got String)" := by
  obtain ⟨verdict, hverdict, hissues⟩ : ∃ verdict,
      (collect none {} (.dict none [(.str "rows", mixedRows)])
        [(.str "rows", .str "Array<Array<int?>>")] .loose none).answer = .ok verdict ∧
      decide (verdict.issues.map Issue.path = [[.field "rows", .index 1, .index 1]]) = true :=
    Act.exists_of_passes (by decide +kernel)
  obtain ⟨issue, hissue, hpath⟩ := List.map_eq_singleton_iff.mp (of_decide_eq_true hissues)
  have hmem : issue ∈ verdict.issues := by simp [hissue]
  have hparse : (Value.str "Array<Array<int?>>").descriptor =
      .ok (.array (.array (.named "int" true) false) false) := by
    rw [Value.str, Value.descriptor, Descriptor.parse_of_text
      (Descriptor.Derivation.bare Descriptor.intName true).bracketed.bracketed (by decide)]
    rfl
  have hpositions : issue.path = .field "rows" :: [1, 1].map .index := hpath
  have hdistinct : Entries.Distinct [(Key.str "rows", Value.str "Array<Array<int?>>")] :=
    List.pairwise_singleton _ _
  obtain ⟨inner, culprit, hfirst, hmessage⟩ := issue_blames_first_culprit {} rfl rfl
    (by simp [Key.IsText]) (by simp [Key.IsText]) hdistinct (.inr hverdict) List.mem_cons_self hparse
    rfl hmem hpositions
  obtain rfl : culprit = .str "x" := (Option.some.inj hfirst.reached).symm
  obtain rfl : inner = .named "int" true := (Option.some.inj hfirst.inside).symm
  exact ⟨verdict, issue, hverdict, hmem, hpath, hfirst, (hmessage (by simp)).trans (by decide)⟩

/-- A field that is a byte string, beside one that is the text it encodes. -/
def twinFields : Schema := [(.atom none (.bytes [97]), .str "int"), (.str "a", .str "int")]

/-- The byte string is missing, and the issue about it leads to the text, the value of which has nothing
wrong in it. -/
theorem twinFields_blame_nothing :
    ∃ verdict issue,
      (collect none {} (.dict none [(.str "a", .int 1)]) twinFields .loose none).answer = .ok verdict ∧
      issue ∈ verdict.issues ∧ issue.path = [.field "a"] ∧
      ¬ ∃ inner culprit, IsFirstCulprit {} none (.named "int" false) (.int 1) [] inner culprit := by
  obtain ⟨verdict, hverdict, hissues⟩ : ∃ verdict,
      (collect none {} (.dict none [(.str "a", .int 1)]) twinFields .loose none).answer = .ok verdict ∧
      decide (verdict.issues.map Issue.path = [[.field "a"]]) = true :=
    Act.exists_of_passes (by decide +kernel)
  obtain ⟨issue, hissue, hpath⟩ := List.map_eq_singleton_iff.mp (of_decide_eq_true hissues)
  refine ⟨verdict, issue, hverdict, by simp [hissue], hpath, ?_⟩
  rintro ⟨inner, culprit, hfirst⟩
  obtain rfl : culprit = .int 1 := (Option.some.inj hfirst.reached).symm
  obtain rfl : inner = .named "int" false := (Option.some.inj hfirst.inside).symm
  have hmatches : Matches {} none (.named "int" false) (.int 1) :=
    (mismatch?_eq_none_iff _ _).mp (by decide +kernel)
  exact hfirst.fails hmatches

end TypedRecord
