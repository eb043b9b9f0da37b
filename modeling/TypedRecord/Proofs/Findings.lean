import TypedRecord.Proofs.Acceptance

/-!
# TypedRecord.Proofs.Findings

What collecting reports of some data.

`Reports` is a report that is drawn up by going through entries in order: it has one issue for every
entry in which there is a fault, and none for the others. A report on data goes through the schema
first, with the faults that a declared field can have (`FieldFault`), and in strict mode through the
data then, where every undeclared key is a fault (`FullReport`).

The main statement is `collect_eq_report`: collecting answers exactly that report, or fails because
something that an issue would have to show cannot be written (`CanBeShown`).
-/

namespace TypedRecord

/-! ### Reports -/

/-- The ways in which a declared field can be at fault. A descriptor that does not parse is at fault
whether the field is there or not. -/
inductive FieldFault (known : Option (List String)) (data : Entries Value) (f : Key × Value) :
    IssueKind → Prop
  | malformed (m : Descriptor.Malformed) (hd : f.2.descriptor = .error m) :
      FieldFault known data f .typeMismatch
  | missing (d : Descriptor) (hd : f.2.descriptor = .ok d) (habsent : data.find? f.1 = none)
      (hnull : d.nullable = false) : FieldFault known data f .missingField
  | rejected (d : Descriptor) (v : Value) (hd : f.2.descriptor = .ok d)
      (hfind : data.find? f.1 = some v) (hrejects : matchesDescriptor known d v = false) :
      FieldFault known data f .typeMismatch

/-- An entry that the schema does not declare is a fault. -/
def UndeclaredFault (schema : Schema) (e : Key × Value) (kind : IssueKind) : Prop :=
  schema.has e.1 = false ∧ kind = .unexpectedField

/-- The issues that are reported of some entries: one for each entry at fault, in order. -/
inductive Reports (AtFault : Key × Value → IssueKind → Prop) : Entries Value → List Issue → Prop
  | nil : Reports AtFault [] []
  | inOrder {e : Key × Value} {es : Entries Value} {issues : List Issue}
      (hnone : ∀ kind, ¬ AtFault e kind) (hrest : Reports AtFault es issues) :
      Reports AtFault (e :: es) issues
  | fault {e : Key × Value} {es : Entries Value} {kind : IssueKind} {issue : Issue}
      {issues : List Issue} (hfault : AtFault e kind) (habout : issue.IsAbout e.1 kind)
      (hrest : Reports AtFault es issues) : Reports AtFault (e :: es) (issue :: issues)

/-- The issues that are reported of some data: those of the declared fields in schema order, then, in
strict mode, those of the undeclared keys in data order. -/
def FullReport (known : Option (List String)) (data : Entries Value) (schema : Schema) (mode : Mode)
    (issues : List Issue) : Prop :=
  ∃ declared undeclared, issues = declared ++ undeclared ∧
    Reports (FieldFault known data) schema declared ∧
    match mode with
    | .strict => Reports (UndeclaredFault schema) data undeclared
    | .loose => undeclared = []

/-- A field has at most one fault. -/
theorem FieldFault.kind_unique {known : Option (List String)} {data : Entries Value}
    {f : Key × Value} {kind kind' : IssueKind} (h : FieldFault known data f kind)
    (h' : FieldFault known data f kind') : kind = kind' := by
  cases h <;> cases h' <;> simp_all

/-- What a report says of its entries is settled by the entries. -/
theorem Reports.said_unique {AtFault : Key × Value → IssueKind → Prop}
    (hunique : ∀ e kind kind', AtFault e kind → AtFault e kind' → kind = kind')
    {es : Entries Value} {issues others : List Issue} (h : Reports AtFault es issues)
    (h' : Reports AtFault es others) :
    issues.map (fun i => (i.kind, i.field)) = others.map fun i => (i.kind, i.field) := by
  induction h generalizing others with
  | nil => cases h'; rfl
  | inOrder hnone _ ih =>
      cases h' with
      | inOrder _ hrest' => exact ih hrest'
      | fault hfault' _ _ => exact absurd hfault' (hnone _)
  | fault hfault habout _ ih =>
      cases h' with
      | inOrder hnone' _ => exact absurd hfault (hnone' _)
      | fault hfault' habout' hrest' =>
          simp only [List.map_cons, ih hrest', habout.kind_eq, habout.field_eq, habout'.kind_eq,
            habout'.field_eq, hunique _ _ _ hfault hfault']

/-- No report but the one of the data has other kinds or fields. -/
theorem FullReport.said_unique {known : Option (List String)} {data : Entries Value}
    {schema : Schema} {mode : Mode} {issues others : List Issue}
    (h : FullReport known data schema mode issues)
    (h' : FullReport known data schema mode others) :
    issues.map (fun i => (i.kind, i.field)) = others.map fun i => (i.kind, i.field) := by
  obtain ⟨declared, undeclared, rfl, hdeclared, hundeclared⟩ := h
  obtain ⟨declared', undeclared', rfl, hdeclared', hundeclared'⟩ := h'
  have hkinds (f : Key × Value) (kind kind' : IssueKind) (h : FieldFault known data f kind)
      (h' : FieldFault known data f kind') : kind = kind' := h.kind_unique h'
  rw [List.map_append, List.map_append, hdeclared.said_unique hkinds hdeclared']
  cases mode with
  | loose =>
      obtain rfl : undeclared = [] := hundeclared
      obtain rfl : undeclared' = [] := hundeclared'
      rfl
  | strict =>
      rw [Reports.said_unique (fun _ _ _ hk hk' => hk.2.trans hk'.2.symm) hundeclared hundeclared']

/-! ### Faults and complaints -/

/-- There is something to complain of in a field exactly where it is at fault. -/
theorem fieldFault_iff (known : Option (List String)) (data : Entries Value) (f : Key × Value)
    (kind : IssueKind) :
    FieldFault known data f kind ↔
      ∃ c, complaint? known data f.1 f.2 = some c ∧ c.kind = kind := by
  unfold complaint?
  constructor
  · intro h
    cases h with
    | malformed m hd => simp [hd]
    | missing d hd habsent hnull => simp [hd, habsent, hnull]
    | rejected d v hd hfind hrejects =>
        obtain ⟨m, hm⟩ : ∃ m, mismatch? known d v = some m :=
          Option.isSome_iff_exists.mp (by simpa [matchesDescriptor] using hrejects)
        simp [hd, hfind, hm]
  · rintro ⟨c, hc, rfl⟩
    cases hd : f.2.descriptor with
    | error m =>
        simp only [hd, Option.some.injEq] at hc
        subst hc
        exact .malformed m hd
    | ok d =>
        simp only [hd] at hc
        cases hfind : data.find? f.1 with
        | none =>
            cases hnull : d.nullable with
            | true => simp [hfind, hnull] at hc
            | false =>
                simp only [hfind, hnull, Bool.false_eq_true, if_false, Option.some.injEq] at hc
                subst hc
                exact .missing d hd hfind hnull
        | some v =>
            simp only [hfind, Option.map_eq_some_iff] at hc
            obtain ⟨m, hm, rfl⟩ := hc
            exact .rejected d v hd hfind (by simp [matchesDescriptor, hm])

/-- An issue in a report is about an entry at fault. -/
theorem Reports.exists_of_mem {AtFault : Key × Value → IssueKind → Prop} {es : Entries Value}
    {issues : List Issue} (h : Reports AtFault es issues) :
    ∀ issue ∈ issues, ∃ e ∈ es, ∃ kind, AtFault e kind ∧ issue.IsAbout e.1 kind := by
  induction h with
  | nil => simp
  | inOrder _ _ ih =>
      intro issue hmem
      obtain ⟨e, he, hfault⟩ := ih issue hmem
      exact ⟨e, List.mem_cons_of_mem _ he, hfault⟩
  | fault hfault habout _ ih =>
      refine List.forall_mem_cons.mpr ⟨⟨_, List.mem_cons_self, _, hfault, habout⟩, ?_⟩
      intro issue hmem
      obtain ⟨e, he, hfault'⟩ := ih issue hmem
      exact ⟨e, List.mem_cons_of_mem _ he, hfault'⟩

/-! ### What can be shown -/

/-- The neighbours that the issue about a field shows can be written. -/
def CanBeShown (size : Int) (data : Entries Value) (schema : Schema) (field : Key) : Prop :=
  ∀ e ∈ neighbours size data (orderedFields data schema) field, e.2.isWritable = true

instance (size : Int) (data : Entries Value) (schema : Schema) (field : Key) :
    Decidable (CanBeShown size data schema field) :=
  inferInstanceAs (Decidable (∀ e ∈ neighbours size data (orderedFields data schema) field,
    e.2.isWritable = true))

/-- Everything that is wrong with some data can be shown. The issue about a descriptor that is no text
shows that descriptor, too. -/
structure CanBeReported (known : Option (List String)) (size : Int) (data : Entries Value)
    (schema : Schema) (mode : Mode) : Prop where
  declared : ∀ f ∈ schema, ∀ kind, FieldFault known data f kind →
    f.2.isWritable = true ∧ CanBeShown size data schema f.1
  undeclared : mode = .strict → ∀ e ∈ data, schema.has e.1 = false →
    CanBeShown size data schema e.1

/-! ### Findings as reports -/

/-- A finding is an issue about a field if everything that it shows can be written, and else there is
no issue. -/
inductive IsIssueIf (shown : Prop) (field : Key) (kind : IssueKind) : Finding → Prop
  | issue {issue : Issue} (hshown : shown) (habout : issue.IsAbout field kind) :
      IsIssueIf shown field kind (.ok issue)
  | unwritable (hnot : ¬ shown) : IsIssueIf shown field kind (.error .unwritable)

/-- A complaint about a text makes an issue if the neighbours can be written. -/
theorem Complaint.finding_isIssueIf (c : Complaint) {size : Int} {data : Entries Value}
    {fields : List Key} {field : Key} (hfield : field.IsText) (hfields : ∀ k ∈ fields, k.IsText) :
    IsIssueIf (∀ e ∈ neighbours size data fields field, e.2.isWritable = true) field c.kind
      (c.finding size data fields field) := by
  by_cases hshown : ∀ e ∈ neighbours size data fields field, e.2.isWritable = true
  · obtain ⟨issue, hissue, habout⟩ := c.exists_finding hfield hfields hshown
    rw [hissue]
    exact .issue hshown habout
  · have hany : ((neighbours size data fields field).any fun e => !e.2.isWritable) = true := by
      simpa [List.any_eq_true] using hshown
    have hnone : c.finding size data fields field = .error .unwritable := by simp [finding, hany]
    rw [hnone]
    exact .unwritable hshown

/-- A complaint about a declared field shows the descriptor, too. -/
theorem Complaint.declaredFinding_isIssueIf (c : Complaint) {size : Int} {data : Entries Value}
    {fields : List Key} {f : Key × Value} (hfield : f.1.IsText)
    (hfields : ∀ k ∈ fields, k.IsText) :
    IsIssueIf (f.2.isWritable = true ∧
        ∀ e ∈ neighbours size data fields f.1, e.2.isWritable = true) f.1 c.kind
      (c.declaredFinding size data fields f) := by
  unfold declaredFinding
  by_cases hwritable : f.2.isWritable = true
  · simpa [hwritable] using c.finding_isIssueIf hfield hfields
  · rw [if_neg hwritable]
    exact .unwritable fun h => hwritable h.1

/-- Entries are gone through for faults: where there is no finding on an entry it is in order, and
elsewhere the finding is an issue about the entry if everything that it shows can be written. -/
def FindsFaults (AtFault : Key × Value → IssueKind → Prop) (Shown : Key × Value → Prop)
    (find : Key × Value → Option Finding) (es : Entries Value) : Prop :=
  ∀ e ∈ es, match find e with
    | none => ∀ kind, ¬ AtFault e kind
    | some finding => ∃ kind, AtFault e kind ∧ IsIssueIf (Shown e) e.1 kind finding

section FindsFaults

variable {AtFault : Key × Value → IssueKind → Prop} {Shown : Key × Value → Prop}
  {find : Key × Value → Option Finding} {es : Entries Value}

/-- Findings that are all issues are the report on the entries. -/
theorem FindsFaults.reports (h : FindsFaults AtFault Shown find es) {issues : List Issue}
    (hissues : es.filterMap find = issues.map .ok) : Reports AtFault es issues := by
  induction es generalizing issues with
  | nil =>
      obtain rfl : issues = [] := by simpa using hissues.symm
      exact .nil
  | cons e es ih =>
      obtain ⟨he, hes⟩ := List.forall_mem_cons.mp h
      cases hfound : find e with
      | none =>
          rw [hfound] at he
          rw [List.filterMap_cons_none hfound] at hissues
          exact .inOrder he (ih hes hissues)
      | some finding =>
          rw [hfound] at he
          rw [List.filterMap_cons_some hfound] at hissues
          obtain ⟨kind, hfault, hfinding⟩ := he
          cases issues with
          | nil => simp at hissues
          | cons issue issues =>
              obtain ⟨rfl, hrest⟩ := List.cons.inj hissues
              obtain ⟨_, habout⟩ | _ := hfinding
              exact .fault hfault habout (ih hes hrest)

/-- The findings are all issues exactly where everything that is at fault can be shown. -/
theorem FindsFaults.forall_ok_iff (h : FindsFaults AtFault Shown find es) :
    (∀ finding ∈ es.filterMap find, ∃ issue, finding = .ok issue) ↔
      ∀ e ∈ es, ∀ kind, AtFault e kind → Shown e := by
  simp only [List.mem_filterMap]
  constructor
  · intro hissues e hmem kind hfault
    have he := h e hmem
    cases hfound : find e with
    | none =>
        rw [hfound] at he
        exact absurd hfault (he kind)
    | some finding =>
        rw [hfound] at he
        obtain ⟨_, _, hfinding⟩ := he
        obtain ⟨issue, rfl⟩ := hissues finding ⟨e, hmem, hfound⟩
        obtain ⟨hshown, _⟩ | _ := hfinding
        exact hshown
  · rintro hshown finding ⟨e, hmem, hfound⟩
    have he := h e hmem
    rw [hfound] at he
    obtain ⟨kind, hfault, hfinding⟩ := he
    cases hfinding with
    | issue => exact ⟨_, rfl⟩
    | unwritable hnot => exact absurd (hshown e hmem kind hfault) hnot

/-- A finding is an issue, or it cannot be written. -/
theorem FindsFaults.ok_or_unwritable (h : FindsFaults AtFault Shown find es) :
    ∀ finding ∈ es.filterMap find, (∃ issue, finding = .ok issue) ∨ finding = .error .unwritable := by
  intro finding hmem
  obtain ⟨e, he, hfound⟩ := List.mem_filterMap.mp hmem
  have hfinding := h e he
  rw [hfound] at hfinding
  obtain ⟨_, _, hfinding⟩ := hfinding
  cases hfinding with
  | issue => exact .inl ⟨_, rfl⟩
  | unwritable => exact .inr rfl

end FindsFaults

section Findings

variable {known : Option (List String)} {size : Int} {data : Entries Value} {schema : Schema}
  {mode : Mode}

/-- The finding on a declared field. -/
def declaredFinding? (known : Option (List String)) (size : Int) (data : Entries Value)
    (schema : Schema) (f : Key × Value) : Option Finding :=
  (complaint? known data f.1 f.2).map fun c =>
    c.declaredFinding size data (orderedFields data schema) f

theorem declaredFindings_eq_filterMap (known : Option (List String)) (size : Int)
    (data : Entries Value) (schema : Schema) :
    declaredFindings known size data schema =
      schema.filterMap (declaredFinding? known size data schema) := rfl

/-- The finding on an undeclared entry. -/
def undeclaredFinding? (size : Int) (data : Entries Value) (schema : Schema) (e : Key × Value) :
    Option Finding :=
  if schema.has e.1 then none
  else some ((undeclaredComplaint e.1 e.2).finding size data (orderedFields data schema) e.1)

theorem undeclaredFindings_eq_filterMap (size : Int) (data : Entries Value) (schema : Schema) :
    undeclaredFindings size data schema = data.filterMap (undeclaredFinding? size data schema) := by
  rw [undeclaredFindings, ← List.filterMap_eq_map, List.filterMap_filter]
  congr
  funext e
  cases h : schema.has e.1 <;> simp [undeclaredFinding?, h]

/-- What is wrong with some data, field by field and then entry by entry. -/
theorem findings_of_entries {v : Value} (hschema : schema ≠ []) (hdata : v.entries? = some data) :
    findings known size v schema mode =
      declaredFindings known size data schema ++
        match mode with
        | .strict => undeclaredFindings size data schema
        | .loose => [] := by
  cases mode <;> simp [findings, hschema, hdata]

variable (htexts : ∀ f ∈ schema, f.1.IsText) (hkeys : ∀ e ∈ data, e.1.IsText)

include htexts hkeys

/-- Declared fields are gone through for faults. -/
theorem findsFaults_declared :
    FindsFaults (FieldFault known data)
      (fun f => f.2.isWritable = true ∧ CanBeShown size data schema f.1)
      (declaredFinding? known size data schema) schema := by
  intro f hf
  unfold declaredFinding?
  cases hc : complaint? known data f.1 f.2 with
  | none =>
      intro kind hfault
      obtain ⟨c, hsome, _⟩ := (fieldFault_iff known data f kind).mp hfault
      rw [hc] at hsome
      cases hsome
  | some c =>
      exact ⟨c.kind, (fieldFault_iff known data f c.kind).mpr ⟨c, hc, rfl⟩,
        c.declaredFinding_isIssueIf (htexts f hf) (isText_of_mem_orderedFields htexts hkeys)⟩

/-- So are the entries of the data, for undeclared ones. -/
theorem findsFaults_undeclared :
    FindsFaults (UndeclaredFault schema) (fun e => CanBeShown size data schema e.1)
      (undeclaredFinding? size data schema) data := by
  intro e he
  unfold undeclaredFinding?
  cases hdeclared : schema.has e.1 with
  | true =>
      rintro kind ⟨hundeclared, _⟩
      rw [hdeclared] at hundeclared
      cases hundeclared
  | false =>
      exact ⟨.unexpectedField, ⟨hdeclared, rfl⟩, (undeclaredComplaint e.1 e.2).finding_isIssueIf
        (hkeys e he) (isText_of_mem_orderedFields htexts hkeys)⟩

/-- A finding on some data is an issue, or it cannot be written. -/
theorem ok_or_unwritable_of_mem_findings {v : Value} (hschema : schema ≠ [])
    (hdata : v.entries? = some data) :
    ∀ finding ∈ findings known size v schema mode,
      (∃ issue, finding = .ok issue) ∨ finding = .error .unwritable := by
  rw [findings_of_entries hschema hdata, List.forall_mem_append]
  refine ⟨(findsFaults_declared htexts hkeys).ok_or_unwritable, ?_⟩
  cases mode with
  | loose => simp
  | strict =>
      rw [undeclaredFindings_eq_filterMap]
      exact (findsFaults_undeclared htexts hkeys).ok_or_unwritable

/-- All findings are issues exactly where everything that is wrong can be shown. -/
theorem findings_ok_iff {v : Value} (hschema : schema ≠ []) (hdata : v.entries? = some data) :
    (∀ finding ∈ findings known size v schema mode, ∃ issue, finding = .ok issue) ↔
      CanBeReported known size data schema mode := by
  have hdeclared := @FindsFaults.forall_ok_iff _ _ _ _
    (@findsFaults_declared known size data schema htexts hkeys)
  have hundeclared := @FindsFaults.forall_ok_iff _ _ _ _
    (@findsFaults_undeclared size data schema htexts hkeys)
  rw [findings_of_entries hschema hdata, List.forall_mem_append, declaredFindings_eq_filterMap,
    hdeclared]
  cases mode with
  | loose =>
      constructor
      · rintro ⟨h, _⟩
        exact ⟨h, fun hmode => by cases hmode⟩
      · intro h
        exact ⟨h.declared, by simp⟩
  | strict =>
      rw [undeclaredFindings_eq_filterMap, hundeclared]
      constructor
      · rintro ⟨h, hothers⟩
        exact ⟨h, fun _ e he hmissing => hothers e he .unexpectedField ⟨hmissing, rfl⟩⟩
      · intro h
        exact ⟨h.declared, fun e he _ hfault => h.undeclared rfl e he hfault.1⟩

end Findings

/-! ### What collecting answers -/

/-- Findings have issues where all of them are issues. -/
theorem issuesOf_eq_ok_iff {found : List Finding} {issues : List Issue} :
    issuesOf found = .ok issues ↔ found = issues.map .ok := by
  induction found generalizing issues with
  | nil => cases issues <;> simp [issuesOf]
  | cons finding rest ih =>
      cases finding with
      | error failure => cases issues <;> simp [issuesOf]
      | ok issue =>
          cases hrest : issuesOf rest with
          | error failure =>
              cases issues with
              | nil => simp [issuesOf, hrest, Except.map]
              | cons first others =>
                  have hne : rest ≠ others.map .ok := fun h => by simp [ih.mpr h] at hrest
                  simp [issuesOf, hrest, Except.map, hne]
          | ok others =>
              have hothers := ih.mp hrest
              cases issues with
              | nil => simp [issuesOf, hrest, Except.map]
              | cons first more =>
                  have hmore : others = more ↔ rest = more.map .ok := by
                    rw [← ih, hrest, Except.ok.injEq]
                  simp [issuesOf, hrest, Except.map, hmore]

/-- Where some findings are no issues because they cannot be written, and there are no other such
findings, no issues are given. -/
theorem issuesOf_eq_unwritable {found : List Finding}
    (hfound : ∀ finding ∈ found, (∃ issue, finding = .ok issue) ∨ finding = .error .unwritable)
    (hsome : ¬ ∀ finding ∈ found, ∃ issue, finding = .ok issue) :
    issuesOf found = .error .unwritable := by
  induction found with
  | nil => simp at hsome
  | cons finding rest ih =>
      obtain ⟨hfinding, hrest⟩ := List.forall_mem_cons.mp hfound
      rcases hfinding with ⟨issue, rfl⟩ | rfl
      · have hnot : ¬ ∀ finding ∈ rest, ∃ issue, finding = .ok issue := by
          intro h
          exact hsome (List.forall_mem_cons.mpr ⟨⟨issue, rfl⟩, h⟩)
        simp [issuesOf, ih hrest hnot, Except.map]
      · rfl

/-- Findings that are all issues are the findings of a list of issues. -/
theorem exists_map_ok {found : List Finding} (h : ∀ finding ∈ found, ∃ issue, finding = .ok issue) :
    ∃ issues : List Issue, found = issues.map .ok := by
  induction found with
  | nil => exact ⟨[], rfl⟩
  | cons finding rest ih =>
      obtain ⟨⟨issue, rfl⟩, hrest⟩ := List.forall_mem_cons.mp h
      obtain ⟨issues, rfl⟩ := ih hrest
      exact ⟨issue :: issues, rfl⟩

theorem answer_forM_report (sink : Sink) (mode : Mode) (label : Option String)
    (issues : List Issue) : Act.answer (issues.forM (report sink mode label)) = .ok () := by
  induction issues with
  | nil => rfl
  | cons issue rest ih =>
      change Act.answer (report sink mode label issue >>= fun _ => rest.forM _) = _
      rw [Act.answer_bind, answer_report]
      exact ih

/-- Collecting answers the issues of the findings. -/
theorem answer_collect {v : Validator} (henabled : v.enabled = true) (known : Option (List String))
    (data : Value) (schema : Schema) (mode : Mode) (label : Option String) :
    (collect known v data schema mode label).answer =
      (issuesOf (findings known v.excerpt data schema mode)).map Verdict.mk := by
  unfold collect
  simp only [henabled, if_true, Act.answer_bind, Act.answer_ofExcept]
  cases issuesOf (findings known v.excerpt data schema mode) with
  | error failure => rfl
  | ok issues =>
      change Act.answer (issues.forM _) >>= _ = _
      rw [answer_forM_report]
      rfl

section Collecting

variable {known : Option (List String)} {v : Validator} {data : Value} {es : Entries Value}
  {schema : Schema}

/-- Collecting answers the report on the data exactly where that report can be shown. -/
theorem answer_collect_cases (henabled : v.enabled = true) (hschema : schema ≠ [])
    (htexts : ∀ f ∈ schema, f.1.IsText) (hdata : data.entries? = some es)
    (hkeys : ∀ e ∈ es, e.1.IsText) (mode : Mode) (label : Option String) :
    (CanBeReported known v.excerpt es schema mode ∧
        ∃ issues, findings known v.excerpt data schema mode = issues.map .ok ∧
          (collect known v data schema mode label).answer = .ok ⟨issues⟩ ∧
          FullReport known es schema mode issues) ∨
      ¬ CanBeReported known v.excerpt es schema mode ∧
        (collect known v data schema mode label).answer = .error .unwritable := by
  have hok := @findings_ok_iff known v.excerpt es schema mode htexts hkeys data hschema hdata
  by_cases hcan : CanBeReported known v.excerpt es schema mode
  · obtain ⟨issues, hissues⟩ := exists_map_ok (hok.mpr hcan)
    refine .inl ⟨hcan, issues, hissues, ?_, ?_⟩
    · rw [answer_collect henabled, issuesOf_eq_ok_iff.mpr hissues]
      rfl
    · rw [findings_of_entries hschema hdata] at hissues
      obtain ⟨declared, undeclared, rfl, hdeclared, hundeclared⟩ :=
        List.map_eq_append_iff.mp hissues.symm
      refine ⟨declared, undeclared, rfl,
        (findsFaults_declared htexts hkeys).reports hdeclared.symm, ?_⟩
      cases mode with
      | strict =>
          rw [undeclaredFindings_eq_filterMap] at hundeclared
          exact (findsFaults_undeclared htexts hkeys).reports hundeclared.symm
      | loose => exact List.map_eq_nil_iff.mp hundeclared
  · refine .inr ⟨hcan, ?_⟩
    have hfound := @ok_or_unwritable_of_mem_findings known v.excerpt es schema mode htexts hkeys
      data hschema hdata
    rw [answer_collect henabled, issuesOf_eq_unwritable hfound fun h => hcan (hok.mp h)]
    rfl

/-- The findings of loose mode come first in strict mode, and then those on undeclared keys. -/
theorem findings_strict (known : Option (List String)) (size : Int) (hschema : schema ≠ [])
    (hdata : data.entries? = some es) :
    findings known size data schema .strict =
      findings known size data schema .loose ++ undeclaredFindings size es schema := by
  simp [findings_of_entries hschema hdata]

/-- Collecting reports exactly what is wrong with data, in order: one issue for every declared field at
fault and, in strict mode, one for every undeclared key. Data is valid where that list is empty. If
something that one of the issues shows cannot be written, there is no report at all. What loose mode
reports comes first in strict mode, and the rest is about undeclared keys. -/
theorem collect_eq_report (henabled : v.enabled = true) (hschema : schema ≠ [])
    (htexts : ∀ f ∈ schema, f.1.IsText) (hdata : data.entries? = some es)
    (hkeys : ∀ e ∈ es, e.1.IsText) (label : Option String) :
    (∀ mode, CanBeReported known v.excerpt es schema mode →
      ∃ verdict, (collect known v data schema mode label).answer = .ok verdict ∧
        FullReport known es schema mode verdict.issues ∧
        (∀ issues, FullReport known es schema mode issues →
          issues.map (fun i => (i.kind, i.field)) =
            verdict.issues.map fun i => (i.kind, i.field)) ∧
        (verdict.valid = true ↔ FullReport known es schema mode [])) ∧
    (∀ mode, ¬ CanBeReported known v.excerpt es schema mode →
      (collect known v data schema mode label).answer = .error .unwritable) ∧
    (∀ verdict, (collect known v data schema .strict label).answer = .ok verdict →
      ∃ issues others, (collect known v data schema .loose label).answer = .ok ⟨issues⟩ ∧
        verdict.issues = issues ++ others ∧
        ∀ issue ∈ others, issue.kind = .unexpectedField) := by
  have hcases := @answer_collect_cases known v data es schema henabled hschema htexts hdata hkeys
  refine ⟨fun mode hcan => ?_, fun mode hcan => ?_, fun verdict hstrict => ?_⟩
  · rcases hcases mode label with ⟨_, issues, _, hanswer, hreport⟩ | ⟨hcannot, _⟩
    · refine ⟨⟨issues⟩, hanswer, hreport, fun _ hothers => hothers.said_unique hreport, ?_⟩
      rw [Verdict.valid_iff]
      constructor
      · intro hnone
        obtain rfl : issues = [] := hnone
        exact hreport
      · intro hempty
        exact List.map_eq_nil_iff.mp (hreport.said_unique hempty)
    · exact absurd hcan hcannot
  · rcases hcases mode label with ⟨hcan', _⟩ | ⟨_, hanswer⟩
    · exact absurd hcan' hcan
    · exact hanswer
  · rcases hcases .strict label with ⟨_, all, hall, hanswer, _⟩ | ⟨_, hanswer⟩
    · rw [hstrict] at hanswer
      cases hanswer
      rw [findings_strict known v.excerpt hschema hdata] at hall
      obtain ⟨issues, others, rfl, hissues, hothers⟩ := List.map_eq_append_iff.mp hall.symm
      refine ⟨issues, others, ?_, rfl, fun issue hmem => ?_⟩
      · rw [answer_collect henabled, issuesOf_eq_ok_iff.mpr hissues.symm]
        rfl
      · rw [undeclaredFindings_eq_filterMap] at hothers
        have hreport := (findsFaults_undeclared htexts hkeys).reports hothers.symm
        obtain ⟨e, _, kind, ⟨_, rfl⟩, habout⟩ := hreport.exists_of_mem issue hmem
        exact habout.kind_eq
    · rw [hstrict] at hanswer
      cases hanswer

end Collecting

/-! ### A census -/

/-- A schema with a field that must be there, one that need not, and two whose descriptors do not
parse. -/
def censusSchema : Schema :=
  [(.str "name", .str "String"), (.str "age", .str "int?"), (.str "tags", .str "Array<"),
    (.str "size", .int 3)]

/-- What is known of somebody of some age whose name is missing. -/
def censusEntries (age : Value) : Entries Value :=
  [(.str "age", age), (.str "town", .str "Ulm")]

theorem isText_of_mem_censusSchema : ∀ f ∈ censusSchema, f.1.IsText := by
  simp [censusSchema, Key.IsText]

theorem isText_of_mem_censusEntries (age : Value) : ∀ e ∈ censusEntries age, e.1.IsText := by
  simp [censusEntries, Key.IsText]

/-- An age that is a text is reported along with the missing name and the two descriptors, and in
strict mode the town is too. -/
theorem collect_of_census :
    ∃ verdict,
      (collect none {} (.dict none (censusEntries (.str "old"))) censusSchema .strict none).answer =
        .ok verdict ∧
      verdict.issues.map (fun i => (i.kind, i.field)) =
        [(.missingField, some "name"), (.typeMismatch, some "age"), (.typeMismatch, some "tags"),
          (.typeMismatch, some "size"), (.unexpectedField, some "town")] := by
  have hdeclared : ∀ f ∈ censusSchema, f.2.isWritable = true ∧
      CanBeShown 2 (censusEntries (.str "old")) censusSchema f.1 := by decide +kernel
  have hundeclared : ∀ e ∈ censusEntries (.str "old"),
      CanBeShown 2 (censusEntries (.str "old")) censusSchema e.1 := by decide +kernel
  have hreport := (@collect_eq_report none {} (.dict none (censusEntries (.str "old")))
    (censusEntries (.str "old")) censusSchema rfl (by simp [censusSchema])
    isText_of_mem_censusSchema rfl (isText_of_mem_censusEntries _) none).1 .strict
    ⟨fun f hf _ _ => hdeclared f hf, fun _ e he _ => hundeclared e he⟩
  obtain ⟨verdict, hanswer, _⟩ := hreport
  have hissues : ((collect none {} (.dict none (censusEntries (.str "old"))) censusSchema .strict
      none).answer.toOption.map fun w => w.issues.map fun i => (i.kind, i.field)) =
        some [(.missingField, some "name"), (.typeMismatch, some "age"),
          (.typeMismatch, some "tags"), (.typeMismatch, some "size"),
          (.unexpectedField, some "town")] := by decide +kernel
  rw [hanswer] at hissues
  exact ⟨verdict, hanswer, Option.some.inj hissues⟩

/-- Nothing is reported where the age is a number too long to be written: it stands next to the
missing name, and there is nothing wrong with it. -/
theorem not_collect_of_unwritable_age :
    (∀ f ∈ censusSchema, f.1.IsText) ∧
      (∀ e ∈ censusEntries Catalog.unwritableNumber, e.1.IsText) ∧
      ¬ ∃ verdict,
        (collect none {} (.dict none (censusEntries Catalog.unwritableNumber)) censusSchema .strict
          none).answer = .ok verdict ∧
        FullReport none (censusEntries Catalog.unwritableNumber) censusSchema .strict
          verdict.issues := by
  refine ⟨isText_of_mem_censusSchema, isText_of_mem_censusEntries _, ?_⟩
  rintro ⟨verdict, hanswer, _⟩
  have hfails : (collect none {} (.dict none (censusEntries Catalog.unwritableNumber)) censusSchema
      .strict none).answer.isOk = false := by decide +kernel
  rw [hanswer] at hfails
  cases hfails

end TypedRecord
