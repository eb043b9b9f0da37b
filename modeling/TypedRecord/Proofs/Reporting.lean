import TypedRecord.Proofs.Alike
import TypedRecord.Proofs.Findings

/-!
# TypedRecord.Proofs.Reporting

When a validation comes to an end.

Validating answers a verdict, unless an issue is about something, or next to something, that cannot be
shown. What is wrong with some data is listed by `faults`, without asking what can be shown of it, and
the findings are the findings on these faults, one by one (`findings_eq_map_faults`). Whether there is
an issue about a fault is said by `Fault.CanBeShown`. A validation that stops at the first failure asks
this of the first fault only, a validation that collects asks it of all of them.
-/

namespace TypedRecord

/-! ### Keys that can be shown -/

@[simp] theorem Value.reportable?_ofKey (k : Key) : (Value.ofKey k).reportable? = k.reportable? := by
  cases k with
  | atom mark a => cases a <;> rfl
  | tuple mark items => simp [Value.ofKey, Value.reportable?, Key.reportable?]

theorem Key.isWritable_of_reportable {k : Key} (h : k.reportable?.isSome = true) :
    k.isWritable = true := by
  cases k with
  | atom mark a =>
    cases a with
    | int i => simp [Key.reportable?] at h
    | _ => simp [Key.isWritable, Atom.isWritable]
  | tuple mark items => simp [Key.reportable?] at h

namespace Shape

/-- What is read as a text is what is reported by one. -/
theorem isOk_text (v : Value) : (text v).isOk = v.reportable?.isSome := by
  unfold text textIn
  cases hv : v.reportable? with
  | some s => rfl
  | none => split <;> simp_all [reading, refuse, Except.isOk, Except.toBool]

theorem isOk_name (k : Key) : (name k).isOk = k.reportable?.isSome := by
  rw [name, isOk_at', isOk_text, Value.reportable?_ofKey]

end Shape

/-- Null has no text, and it is no number either, so it is no step on a way. -/
theorem isOk_reportedField (field : Key) :
    (reportedField field).isOk = field.reportable?.isSome := by
  by_cases hnil : field = .atom none .nil
  · subst hnil
    rfl
  · rw [← Value.reportable?_ofKey, ← Shape.isOk_text, reportedField]
    simp only [if_neg hnil, Except.isOk_map, Shape.isOk_both, Shape.isOk_at']
    cases Shape.text (Value.ofKey field) with
    | ok s => rfl
    | error obstacle => rfl

/-! ### Faults -/

instance (known : Option (List String)) (data : Entries Value) (field : Key) (declared : Value) :
    Decidable (FieldInOrder known data field declared) :=
  decidable_of_iff _ (complaint?_eq_none_iff known data field declared)

/-- Something that is wrong with some data. -/
inductive Fault
  | declared (field : Key) (descriptor : Value)
  | undeclared (field : Key) (value : Value)

namespace Fault

/-- The field at fault. -/
def field : Fault → Key
  | declared field _ | undeclared field _ => field

/-- The descriptor of the field at fault. -/
def descriptor? : Fault → Option Value
  | declared _ descriptor => some descriptor
  | undeclared _ _ => none

/-- Everything that the issue about a fault shows can be shown: the field by a text, the descriptor,
and what is around the field, itself included, by texts with what they hold. -/
structure CanBeShown (fault : Fault) (size : Int) (data : Entries Value) (schema : Schema) :
    Prop where
  field : fault.field.reportable?.isSome = true
  descriptor : ∀ d, fault.descriptor? = some d → d.isWritable = true
  neighbours : ∀ e ∈ neighbours size data (orderedFields data schema) fault.field,
    e.1.reportable?.isSome = true ∧ e.2.isWritable = true

/-- The finding on a fault. -/
def finding (known : Option (List String)) (size : Int) (data : Entries Value) (schema : Schema) :
    Fault → Finding
  | declared field descriptor =>
    ((complaint? known data field descriptor).getD default).declaredFinding size data
      (orderedFields data schema) (field, descriptor)
  | undeclared field value =>
    (undeclaredComplaint field value).finding size data (orderedFields data schema) field

end Fault

/-- Everything that is wrong with some data: the declared fields that are not in order, and in strict
mode the entries that are not declared. -/
def faults (known : Option (List String)) (data : Entries Value) (schema : Schema) (mode : Mode) :
    List Fault :=
  (schema.filter fun f => ¬ FieldInOrder known data f.1 f.2).map (fun f => .declared f.1 f.2) ++
    match mode with
    | .strict => (data.filter fun e => !schema.has e.1).map fun e => .undeclared e.1 e.2
    | .loose => []

section Faults

variable {known : Option (List String)} {size : Int} {data : Entries Value} {schema : Schema}

/-- An issue can be built exactly where everything in it can be shown. -/
theorem isShown_iff (fields : List Key) (field : Key) :
    isShown size data fields field = true ↔
      field.reportable?.isSome = true ∧
        ∀ e ∈ neighbours size data fields field,
          e.1.reportable?.isSome = true ∧ e.2.isWritable = true := by
  simp only [isShown, Entries.keys, Bool.and_eq_true, List.all_eq_true, List.mem_map,
    isOk_reportedField, Shape.isOk_name]
  constructor
  · rintro ⟨⟨⟨-, hvalues⟩, hfield⟩, hkeys⟩
    exact ⟨hfield, fun e he => ⟨hkeys e.1 ⟨e, he, rfl⟩, hvalues e he⟩⟩
  · rintro ⟨hfield, hneighbours⟩
    refine ⟨⟨⟨Key.isWritable_of_reportable hfield, fun e he => (hneighbours e he).2⟩, hfield⟩, ?_⟩
    rintro k ⟨e, he, rfl⟩
    exact (hneighbours e he).1

theorem Fault.isOk_finding (fault : Fault) :
    (fault.finding known size data schema).isOk = true ↔ fault.CanBeShown size data schema := by
  cases fault with
  | declared field descriptor =>
    simp only [finding, Complaint.declaredFinding]
    by_cases hd : descriptor.isWritable = true
    · rw [if_pos hd, Complaint.isOk_finding, isShown_iff]
      constructor
      · rintro ⟨hfield, hneighbours⟩
        exact ⟨hfield, fun d h => Option.some.inj h ▸ hd, hneighbours⟩
      · intro h
        exact ⟨h.field, h.neighbours⟩
    · rw [if_neg hd]
      exact iff_of_false (by simp [Except.isOk, Except.toBool]) fun h => hd (h.descriptor _ rfl)
  | undeclared field value =>
    unfold finding
    rw [Complaint.isOk_finding, isShown_iff]
    constructor
    · rintro ⟨hfield, hneighbours⟩
      refine ⟨hfield, fun d hd => ?_, hneighbours⟩
      cases hd
    · intro h
      exact ⟨h.field, h.neighbours⟩

/-- The finding on a declared field is that on its fault, if it has one. -/
theorem declaredFinding?_eq (f : Key × Value) :
    declaredFinding? known size data schema f =
      if FieldInOrder known data f.1 f.2 then none
      else some (Fault.finding known size data schema (.declared f.1 f.2)) := by
  unfold declaredFinding?
  cases hc : complaint? known data f.1 f.2 with
  | none => rw [if_pos ((complaint?_eq_none_iff ..).mp hc), Option.map_none]
  | some c =>
    have hfault : ¬ FieldInOrder known data f.1 f.2 := by
      simp [← complaint?_eq_none_iff, hc]
    rw [if_neg hfault, Fault.finding, hc]
    rfl

/-- The findings on some data are those on its faults. -/
theorem findings_eq_map_faults {v : Value} (hschema : schema ≠ []) (hdata : v.entries? = some data)
    (mode : Mode) :
    findings known size v schema mode =
      (faults known data schema mode).map (Fault.finding known size data schema) := by
  have hdeclared (fs : Schema) : fs.filterMap (declaredFinding? known size data schema) =
      ((fs.filter fun f => ¬ FieldInOrder known data f.1 f.2).map
        fun f => Fault.declared f.1 f.2).map (Fault.finding known size data schema) := by
    induction fs with
    | nil => rfl
    | cons f rest ih =>
      have hfinding : declaredFinding? known size data schema f = _ := declaredFinding?_eq f
      by_cases hf : FieldInOrder known data f.1 f.2
      · rw [if_pos hf] at hfinding
        rw [List.filterMap_cons_none hfinding, List.filter_cons_of_neg (by simp [hf]), ih]
      · rw [if_neg hf] at hfinding
        rw [List.filterMap_cons_some hfinding, List.filter_cons_of_pos (by simp [hf]), ih]
        rfl
  rw [findings_of_entries hschema hdata, declaredFindings_eq_filterMap, hdeclared]
  cases mode with
  | strict => simp [faults, undeclaredFindings, Fault.finding, Function.comp_def]
  | loose => simp [faults]

end Faults

/-! ### How a validation fails -/

/-- Reading stops nowhere: what is not in order is refused, with everything that is refused. -/
def Shape.Refuses {α : Type} (read : Shaped α) : Prop := ∀ fault, read ≠ .error (.unencodable fault)

namespace Shape

variable {α β : Type}

theorem Refuses.ok (a : α) : Refuses (.ok a) := by
  intro fault h
  cases h

theorem Refuses.reading (v : Value) (judged : Judged α) : Refuses (reading v judged) := by
  intro fault
  cases judged <;> simp [Shape.reading, refuse]

theorem Refuses.at' {part : Shaped α} (h : Refuses part) (place : Place) :
    Refuses (at' place part) := by
  intro fault hfault
  rcases part with (refusals | fault') | a
  · cases hfault
  · exact h fault' rfl
  · cases hfault

theorem Refuses.map {read : Shaped α} (h : Refuses read) (f : α → β) : Refuses (read.map f) := by
  intro fault hfault
  cases read with
  | ok a => cases hfault
  | error obstacle =>
    cases hfault
    exact h fault rfl

theorem Refuses.both {a : Shaped α} {b : Shaped β} (ha : Refuses a) (hb : Refuses b) :
    Refuses (both a b) := by
  intro fault hfault
  rcases a with (refusals | fault') | x
  · rcases b with (refusals' | fault') | y
    · cases hfault
    · exact hb fault' rfl
    · cases hfault
  · exact ha fault' rfl
  · rcases b with (refusals' | fault') | y
    · cases hfault
    · exact hb fault' rfl
    · cases hfault

theorem Refuses.all {parts : List (Shaped α)} (h : ∀ part ∈ parts, Refuses part) :
    Refuses (all parts) := by
  induction parts with
  | nil => exact .ok []
  | cons part parts ih =>
    obtain ⟨hpart, hparts⟩ := List.forall_mem_cons.mp h
    exact (hpart.both (ih hparts)).map _

end Shape

theorem refuses_reportedField (field : Key) : Shape.Refuses (reportedField field) := by
  have htext := Shape.Refuses.reading (Value.ofKey field) (Shape.textIn (Value.ofKey field))
  have hnumber := Shape.Refuses.reading (Value.ofKey field) (Shape.numberIn (Value.ofKey field))
  refine Shape.Refuses.map (.both (.at' ?_ _) (.at' (.at' ?_ _) _)) _
  · split
    · exact .ok _
    · exact htext
  · split
    · exact .ok _
    · exact .ok _
    · exact .map (.both (htext.at' _) (hnumber.at' _)) _

theorem refuses_reportedExcerpt (es : List (Key × String)) : Shape.Refuses (reportedExcerpt es) := by
  refine .at' (.map (.all ?_) _) _
  intro part hpart
  obtain ⟨e, -, rfl⟩ := List.mem_map.mp hpart
  exact .at' (.both (.at' (.reading _ _) _) (.ok _)) _

/-- The failures of a validation: something is too long to be written, or no text. -/
def Failure.IsOfReport (failure : Failure) : Prop :=
  failure = .unwritable ∨ ∃ refusals, failure = .unreportable refusals

theorem Complaint.isOfReport_of_finding (c : Complaint) {size : Int} {data : Entries Value}
    {fields : List Key} {field : Key} {failure : Failure}
    (h : c.finding size data fields field = .error failure) : failure.IsOfReport := by
  unfold finding at h
  split at h
  · cases h
    exact .inl rfl
  · have hrefuses := (refuses_reportedField field).both
      (refuses_reportedExcerpt (excerpt size data fields field))
    split at h
    · cases h
    · cases h
      exact .inr ⟨_, rfl⟩
    · next fault hfault => exact absurd hfault (hrefuses fault)

theorem Fault.isOfReport_of_finding {known : Option (List String)} {size : Int}
    {data : Entries Value} {schema : Schema} (fault : Fault) {failure : Failure}
    (h : fault.finding known size data schema = .error failure) : failure.IsOfReport := by
  cases fault with
  | undeclared field value => exact Complaint.isOfReport_of_finding _ h
  | declared field descriptor =>
    simp only [finding, Complaint.declaredFinding] at h
    split at h
    · exact Complaint.isOfReport_of_finding _ h
    · cases h
      exact .inl rfl

/-- Where findings have no issues, it is for one of them. -/
theorem mem_of_issuesOf_eq_error {found : List Finding} {failure : Failure}
    (h : issuesOf found = .error failure) : .error failure ∈ found := by
  induction found with
  | nil => cases h
  | cons finding rest ih =>
    cases finding with
    | error failure' =>
      cases h
      exact List.mem_cons_self
    | ok issue =>
      cases hrest : issuesOf rest with
      | ok issues => rw [issuesOf, hrest] at h; cases h
      | error failure' =>
        rw [issuesOf, hrest] at h
        cases h
        exact List.mem_cons_of_mem _ (ih hrest)

section Answers

variable {known : Option (List String)} {v : Validator} {data : Value} {schema : Schema}
  {mode : Mode} {label : Option String}

/-- Validating comes to an end. -/
def ValidateAnswers (known : Option (List String)) (v : Validator) (data : Value) (schema : Schema)
    (mode : Mode) (label : Option String) : Prop :=
  ∃ verdict, (validate known v data schema mode label).answer = .ok verdict

/-- Collecting comes to an end. -/
def CollectAnswers (known : Option (List String)) (v : Validator) (data : Value) (schema : Schema)
    (mode : Mode) (label : Option String) : Prop :=
  ∃ verdict, (collect known v data schema mode label).answer = .ok verdict

/-- Validating comes to an end where the first finding, if there is one, is an issue. -/
theorem validateAnswers_iff (henabled : v.enabled = true) :
    ValidateAnswers known v data schema mode label ↔
      ∀ finding, (findings known v.excerpt data schema mode).head? = some finding →
        finding.isOk = true := by
  rw [ValidateAnswers, answer_validate, if_pos henabled]
  cases findings known v.excerpt data schema mode with
  | nil => simp
  | cons first rest => cases first <;> simp [Except.isOk, Except.toBool]

/-- Collecting comes to an end where all findings are issues. -/
theorem collectAnswers_iff (henabled : v.enabled = true) :
    CollectAnswers known v data schema mode label ↔
      ∀ finding ∈ findings known v.excerpt data schema mode, finding.isOk = true := by
  rw [CollectAnswers, answer_collect henabled]
  constructor
  · rintro ⟨verdict, h⟩ finding hmem
    cases hissues : issuesOf (findings known v.excerpt data schema mode) with
    | error failure => rw [hissues] at h; cases h
    | ok issues =>
      rw [issuesOf_eq_ok_iff.mp hissues] at hmem
      obtain ⟨issue, -, rfl⟩ := List.mem_map.mp hmem
      rfl
  · intro h
    have hall : ∀ finding ∈ findings known v.excerpt data schema mode,
        ∃ issue, finding = .ok issue := by
      intro finding hmem
      have hok := h finding hmem
      cases finding with
      | ok issue => exact ⟨issue, rfl⟩
      | error failure => cases hok
    obtain ⟨issues, hissues⟩ := exists_map_ok hall
    exact ⟨⟨issues⟩, by rw [issuesOf_eq_ok_iff.mpr hissues]; rfl⟩

/-- Where there is nothing to judge by, or nothing that could be judged field by field, there is one
issue, and it shows neither fields nor values. -/
theorem findings_of_no_entries (h : schema = [] ∨ data.entries? = none) (size : Int) :
    ∃ issue, findings known size data schema mode = [.ok issue] := by
  unfold findings
  by_cases hschema : schema = []
  · exact ⟨_, if_pos hschema⟩
  · rw [if_neg hschema, h.resolve_left hschema]
    exact ⟨_, rfl⟩

/-- A failed validation failed for one of the findings, and so for what an issue shows. -/
theorem isOfReport_of_mem_findings {failure : Failure} {size : Int}
    (h : .error failure ∈ findings known size data schema mode) : failure.IsOfReport := by
  by_cases hschema : schema = []
  · obtain ⟨issue, hissue⟩ :=
      @findings_of_no_entries known data schema mode (.inl hschema) size
    rw [hissue] at h
    cases List.mem_singleton.mp h
  · cases hdata : data.entries? with
    | none =>
      obtain ⟨issue, hissue⟩ :=
        @findings_of_no_entries known data schema mode (.inr hdata) size
      rw [hissue] at h
      cases List.mem_singleton.mp h
    | some es =>
      rw [findings_eq_map_faults hschema hdata] at h
      obtain ⟨fault, -, hfault⟩ := List.mem_map.mp h
      exact fault.isOfReport_of_finding hfault

/-- Where fields are texts and everything can be written, every fault can be shown. -/
theorem Fault.canBeShown_of_texts {fault : Fault} {size : Int} {es : Entries Value}
    (hfields : ∀ f ∈ schema, f.1.IsText ∧ f.2.isWritable = true)
    (hentries : ∀ e ∈ es, e.1.IsText ∧ e.2.isWritable = true)
    (hfault : fault ∈ faults known es schema mode) : fault.CanBeShown size es schema := by
  have htext {k : Key} (h : k.IsText) : k.reportable?.isSome = true := by
    obtain ⟨mark, s, rfl⟩ := h
    rfl
  have hfields_text : ∀ k ∈ orderedFields es schema, k.IsText := fun k hk =>
    isText_of_mem_orderedFields (fun f hf => (hfields f hf).1) (fun e he => (hentries e he).1) k hk
  have hshown : fault.field.IsText ∧ ∀ d, fault.descriptor? = some d → d.isWritable = true := by
    rcases List.mem_append.mp hfault with hdeclared | hundeclared
    · obtain ⟨f, hf, rfl⟩ := List.mem_map.mp hdeclared
      obtain ⟨htext, hwritable⟩ := hfields f (List.mem_filter.mp hf).1
      exact ⟨htext, fun d hd => Option.some.inj hd ▸ hwritable⟩
    · cases mode with
      | loose => cases hundeclared
      | strict =>
        obtain ⟨e, he, rfl⟩ := List.mem_map.mp hundeclared
        refine ⟨(hentries e (List.mem_filter.mp he).1).1, fun d hd => ?_⟩
        cases hd
  refine ⟨htext hshown.1, hshown.2, fun e he => ?_⟩
  obtain ⟨hmem, hfind⟩ := mem_neighbours he
  obtain ⟨k, hk, -⟩ := Entries.exists_mem_of_find? hfind
  exact ⟨htext (hfields_text e.1 hmem), (hentries _ hk).2⟩

/-- Validating ends with a verdict where the first thing that is wrong with the data can be shown, and
collecting where everything that is wrong can be. There are always verdicts on data that is no mapping,
by schemas without fields, and where all fields are texts and no number is too long to be written.
Where there is no verdict, it is because something is no text or too long. -/
theorem answers_iff_faults_shown (henabled : v.enabled = true) :
    (schema = [] ∨ data.entries? = none →
      ValidateAnswers known v data schema mode label ∧
        CollectAnswers known v data schema mode label) ∧
    (∀ es, schema ≠ [] → data.entries? = some es →
      (ValidateAnswers known v data schema mode label ↔
        ∀ fault, (faults known es schema mode).head? = some fault →
          fault.CanBeShown v.excerpt es schema) ∧
      (CollectAnswers known v data schema mode label ↔
        ∀ fault ∈ faults known es schema mode, fault.CanBeShown v.excerpt es schema) ∧
      ((∀ f ∈ schema, f.1.IsText ∧ f.2.isWritable = true) →
        (∀ e ∈ es, e.1.IsText ∧ e.2.isWritable = true) →
        ValidateAnswers known v data schema mode label ∧
          CollectAnswers known v data schema mode label)) ∧
    (∀ failure, (validate known v data schema mode label).answer = .error failure ∨
      (collect known v data schema mode label).answer = .error failure → failure.IsOfReport) := by
  rw [validateAnswers_iff henabled, collectAnswers_iff henabled]
  refine ⟨?_, ?_, ?_⟩
  · intro hnone
    obtain ⟨issue, hissue⟩ := @findings_of_no_entries known data schema mode hnone v.excerpt
    rw [hissue]
    exact ⟨fun finding h => Option.some.inj h ▸ rfl, fun finding h => List.mem_singleton.mp h ▸ rfl⟩
  · intro es hschema hdata
    rw [findings_eq_map_faults hschema hdata]
    simp only [List.head?_map, Option.map_eq_some_iff, forall_exists_index, and_imp,
      forall_apply_eq_imp_iff₂, List.forall_mem_map, Fault.isOk_finding, true_and]
    refine fun hfields hentries => ⟨fun fault h => ?_, fun fault h => ?_⟩
    · exact fault.canBeShown_of_texts hfields hentries (List.mem_of_mem_head? h)
    · exact fault.canBeShown_of_texts hfields hentries h
  · rintro failure (h | h)
    · rw [answer_validate, if_pos henabled] at h
      refine @isOfReport_of_mem_findings known data schema mode failure v.excerpt ?_
      split at h
      · cases h
      · next hfound => rw [hfound, Except.error.inj h]; exact List.mem_cons_self
      · cases h
    · rw [answer_collect henabled] at h
      cases hissues : issuesOf (findings known v.excerpt data schema mode) with
      | ok issues => rw [hissues] at h; cases h
      | error failure' =>
        rw [hissues] at h
        cases h
        exact isOfReport_of_mem_findings (mem_of_issuesOf_eq_error hissues)

end Answers

/-- Whatever the age in a census is, if it can be written there are verdicts. -/
theorem answers_of_census :
    ({} : Validator).enabled = true ∧
      ValidateAnswers none {} (.dict none (censusEntries (.str "old"))) censusSchema .strict none ∧
      CollectAnswers none {} (.dict none (censusEntries (.str "old"))) censusSchema .strict none := by
  have hschema : censusSchema ≠ [] := by simp [censusSchema]
  have hfields : ∀ f ∈ censusSchema, f.2.isWritable = true := by decide +kernel
  have hentries : ∀ e ∈ censusEntries (.str "old"), e.2.isWritable = true := by decide +kernel
  exact ⟨rfl, ((answers_iff_faults_shown rfl).2.1 (censusEntries (.str "old")) hschema rfl).2.2
    (fun f hf => ⟨isText_of_mem_censusSchema f hf, hfields f hf⟩)
    (fun e he => ⟨isText_of_mem_censusEntries _ e he, hentries e he⟩)⟩

/-- A schema with one field. -/
def nameSchema : Schema := [(.str "name", .str "String")]

/-- A name that is no text, and what is known under a number. -/
def numberedEntries : Entries Value :=
  [(.str "name", .bool true), (.atom none (.int 5), .str "Ulm")]

/-- A name that is no text, next to an age that is too long a number. -/
def agedEntries : Entries Value :=
  [(.str "name", .bool true), (.str "age", Catalog.unwritableNumber)]

/-- There is no verdict on a name that is no text if there is a number among the fields around it, nor
if one of them holds a number too long to be written. -/
theorem not_answers_of_numbered :
    ({} : Validator).enabled = true ∧
      ¬ ValidateAnswers none {} (.dict none numberedEntries) nameSchema .loose none ∧
      ¬ CollectAnswers none {} (.dict none numberedEntries) nameSchema .loose none ∧
      ¬ ValidateAnswers none {} (.dict none agedEntries) nameSchema .loose none ∧
      ¬ CollectAnswers none {} (.dict none agedEntries) nameSchema .loose none := by
  have hnot {es : Entries Value} (h : ((findings none 2 (.dict none es) nameSchema .loose).map
      Except.isOk) = [false]) :
      ¬ ValidateAnswers none {} (.dict none es) nameSchema .loose none ∧
        ¬ CollectAnswers none {} (.dict none es) nameSchema .loose none := by
    obtain ⟨finding, hfound, hfinding⟩ := List.map_eq_singleton_iff.mp h
    rw [validateAnswers_iff rfl, collectAnswers_iff rfl]
    refine ⟨fun hall => ?_, fun hall => ?_⟩
    · have hok := hall finding (by rw [hfound]; rfl)
      rw [hfinding] at hok
      cases hok
    · have hok := hall finding (by rw [hfound]; exact List.mem_singleton_self _)
      rw [hfinding] at hok
      cases hok
  have hnumbered := @hnot numberedEntries (by decide +kernel)
  have haged := @hnot agedEntries (by decide +kernel)
  exact ⟨rfl, hnumbered.1, hnumbered.2, haged.1, haged.2⟩

end TypedRecord
