import TypedRecord.Proofs.Culprit

/-!
# TypedRecord.Proofs.Neighbours

What an issue shows of the data around its field.

The fields stand in an order, those of the schema first and then the undeclared keys. An issue shows
the values at most so many places from its field. The window is cut out of the list of fields from
both sides; `nearby` says by places what is left, and `drop_take_eq_nearby` that this is the same,
also where the window reaches beyond an end. No two fields are the same, so a field has one place, and
everything that can be wrong is about a field with a place (`exists_place_of_mem_faults`).

What is absent from the data leaves a gap in the window, and nothing else takes its place. A value that
cannot be written leaves no issue at all.
-/

namespace TypedRecord

/-! ### Places in a list -/

section Places

variable {α : Type}

/-- The items of a list at most `n` places from place `i`, in order. -/
def nearby (n i : Nat) (items : List α) : List α :=
  (items.zipIdx.filter fun e => e.2 ≤ i + n ∧ i ≤ e.2 + n).map Prod.fst

/-- Cutting a list off at a place leaves the items in front of that place. -/
theorem filter_zipIdx_lt (items : List α) (start k : Nat) :
    ((items.zipIdx start).filter fun e => e.2 < start + k) = (items.take k).zipIdx start := by
  induction items generalizing start k with
  | nil => simp
  | cons a items ih =>
    cases k with
    | zero =>
      refine List.filter_eq_nil_iff.mpr fun e he => ?_
      have hbegin := List.le_snd_of_mem_zipIdx he
      simpa using hbegin
    | succ k =>
      rw [List.zipIdx_cons, List.take_succ_cons, List.zipIdx_cons,
        List.filter_cons_of_pos (by simp), ← ih, Nat.add_right_comm, Nat.add_assoc]

/-- Dropping the front of a list leaves the items from a place on. -/
theorem filter_zipIdx_ge (items : List α) (start k : Nat) :
    ((items.zipIdx start).filter fun e => start + k ≤ e.2) = (items.drop k).zipIdx (start + k) := by
  induction items generalizing start k with
  | nil => simp
  | cons a items ih =>
    cases k with
    | zero =>
      refine List.filter_eq_self.mpr fun e he => ?_
      simpa using List.le_snd_of_mem_zipIdx he
    | succ k =>
      rw [List.zipIdx_cons, List.drop_succ_cons, List.filter_cons_of_neg (by simp), Nat.add_comm k 1,
        ← Nat.add_assoc, ih]

/-- What is left of a list that is cut from both sides. -/
theorem drop_take_eq_nearby (n i : Nat) (items : List α) :
    (items.take (i + n + 1)).drop (i - n) = nearby n i items := by
  have hnear (k : Nat) : (k ≤ i + n ∧ i ≤ k + n) ↔ (0 + (i - n) ≤ k ∧ k < 0 + (i + n + 1)) := by
    omega
  simp only [nearby, hnear, Bool.decide_and]
  rw [← List.filter_filter, filter_zipIdx_lt, filter_zipIdx_ge, List.zipIdx_map_fst]

theorem length_nearby_le (n i : Nat) (items : List α) : (nearby n i items).length ≤ 2 * n + 1 := by
  rw [← drop_take_eq_nearby]
  simp only [List.length_drop, List.length_take]
  omega

theorem nearby_sublist (n i : Nat) (items : List α) : (nearby n i items).Sublist items := by
  rw [← drop_take_eq_nearby]
  exact (List.drop_sublist _ _).trans (List.take_sublist _ _)

/-- What is at the place itself is near it. -/
theorem mem_nearby_self {i : Nat} {items : List α} {a : α} (h : items[i]? = some a) (n : Nat) :
    a ∈ nearby n i items := by
  refine List.mem_map.mpr ⟨(a, i), List.mem_filter.mpr ⟨?_, by simp⟩, rfl⟩
  simpa [List.mem_zipIdx_iff_getElem?] using h

end Places

/-! ### The place of a field -/

section Fields

variable {known : Option (List String)} {data : Entries Value} {schema : Schema} {mode : Mode}
  {fields : List Key} {field : Key} {n i : Nat}

/-- No two of the fields are the same: undeclared keys are other than the declared ones. -/
theorem pairwise_orderedFields (hschema : Entries.Distinct schema) (hdata : data.Distinct) :
    (orderedFields data schema).Pairwise fun k l => k.same l = false := by
  refine List.pairwise_append.mpr ⟨List.pairwise_map.mpr hschema,
    List.Pairwise.filter _ (List.pairwise_map.mpr hdata), fun k hk l hl => ?_⟩
  have hundeclared : schema.has l = false := by simpa using (List.mem_filter.mp hl).2
  cases hsame : k.same l with
  | false => rfl
  | true =>
    rw [Entries.has_iff.mpr ⟨k, hk, hsame⟩] at hundeclared
    cases hundeclared

/-- Everything that can be wrong is wrong with a field that has a place. -/
theorem exists_place_of_mem_faults {fault : Fault} (h : fault ∈ faults known data schema mode) :
    ∃ i : Nat, (orderedFields data schema)[i]? = some fault.field := by
  refine List.mem_iff_getElem?.mp (List.mem_append.mpr ?_)
  rcases List.mem_append.mp h with hdeclared | hundeclared
  · obtain ⟨f, hf, rfl⟩ := List.mem_map.mp hdeclared
    exact .inl (List.mem_map_of_mem (List.mem_filter.mp hf).1)
  · cases mode with
    | loose => cases hundeclared
    | strict =>
      obtain ⟨e, he, rfl⟩ := List.mem_map.mp hundeclared
      obtain ⟨hmem, hnot⟩ := List.mem_filter.mp he
      exact .inr (List.mem_filter.mpr ⟨List.mem_map_of_mem hmem, hnot⟩)

/-- The window is what is near the place of the field. -/
theorem window_eq_nearby (hfields : fields.Pairwise fun k l => k.same l = false) (hn : 0 < n)
    (h : fields[i]? = some field) : window n fields field = nearby n i fields := by
  obtain ⟨hi, hfield⟩ := List.getElem?_eq_some_iff.mp h
  have hplace : fields.findIdx (fun k => k.same field) = i := by
    rw [List.findIdx_eq hi, hfield]
    refine ⟨Key.same_refl field, fun j hj => ?_⟩
    rw [← hfield]
    exact List.pairwise_iff_getElem.mp hfields j i _ hi hj
  have hpositive : ¬ (n : Int) ≤ 0 := by omega
  rw [window, if_neg hpositive, hplace, Int.toNat_natCast, drop_take_eq_nearby]

/-- What the data has near a place. -/
def entriesAround (n i : Nat) (data : Entries Value) (fields : List Key) : Entries Value :=
  (nearby n i fields).filterMap fun k => (data.find? k).map fun v => (k, v)

theorem mem_entriesAround {e : Key × Value} :
    e ∈ entriesAround n i data fields ↔ e.1 ∈ nearby n i fields ∧ data.find? e.1 = some e.2 := by
  obtain ⟨k, v⟩ := e
  simp only [entriesAround, List.mem_filterMap, Option.map_eq_some_iff]
  constructor
  · rintro ⟨l, hl, w, hfind, heq⟩
    cases heq
    exact ⟨hl, hfind⟩
  · rintro ⟨hk, hfind⟩
    exact ⟨k, hk, v, hfind, rfl⟩

theorem keys_entriesAround (n i : Nat) (data : Entries Value) (fields : List Key) :
    (entriesAround n i data fields).keys = (nearby n i fields).filter data.has := by
  unfold entriesAround
  induction nearby n i fields with
  | nil => rfl
  | cons k ks ih =>
    cases hfind : data.find? k with
    | none => simp [Entries.has, hfind, ih]
    | some v =>
      simp only [Entries.keys] at ih
      simp [Entries.has, Entries.keys, hfind, ih]

theorem neighbours_eq_entriesAround (hfields : fields.Pairwise fun k l => k.same l = false)
    (hn : 0 < n) (h : fields[i]? = some field) :
    neighbours n data fields field = entriesAround n i data fields := by
  rw [neighbours, window_eq_nearby hfields hn h, entriesAround]

end Fields

/-! ### What an issue shows -/

/-- Texts under texts that are not repeated are reported as they are. -/
theorem reportedExcerpt_eq {es : List (Key × String)} (htexts : ∀ e ∈ es, e.1.IsText)
    (hdistinct : es.Pairwise fun e f => e.1.same f.1 = false) :
    reportedExcerpt es = .ok (es.map fun e => (e.1.plainText, e.2)) := by
  have hall : Shape.all (es.map fun (k, v) =>
      Shape.at' (Shape.placeOf k) (Shape.both (Shape.name k) (.ok v))) =
        .ok (es.map fun e => (e.1.plainText, e.2)) := by
    clear hdistinct
    induction es with
    | nil => rfl
    | cons e rest ih =>
      obtain ⟨⟨mark, s, hkey⟩, hrest⟩ := List.forall_mem_cons.mp htexts
      obtain ⟨k, v⟩ := e
      obtain rfl : k = .atom mark (.str s) := hkey
      rw [List.map_cons, Shape.all, ih hrest]
      rfl
  have hnodup : ((es.map fun e => (e.1.plainText, e.2)).map Prod.fst).Nodup := by
    rw [List.map_map]
    exact nodup_plainText htexts hdistinct
  rw [reportedExcerpt, Shape.named, hall]
  exact congrArg Except.ok (Named.ofList_of_nodup hnodup)

/-- An issue shows a neighbourhood: the previews of its values, under the texts of its keys. -/
def Issue.Shows (issue : Issue) (around : Entries Value) : Prop :=
  issue.context = around.map fun e => (e.1.plainText, e.2.preview)

section Shown

variable {known : Option (List String)} {data : Entries Value} {schema : Schema} {mode : Mode}
  {n i : Nat} {issue : Issue}

theorem Complaint.shows_of_finding {c : Complaint} {fields : List Key} {field : Key}
    (htexts : ∀ k ∈ fields, k.IsText) (hfields : fields.Pairwise fun k l => k.same l = false)
    (hn : 0 < n) (hplace : fields[i]? = some field)
    (h : c.finding n data fields field = .ok issue) :
    issue.Shows (entriesAround n i data fields) := by
  have haround := @neighbours_eq_entriesAround data fields field n i hfields hn hplace
  have hexcerpt : reportedExcerpt (excerpt n data fields field) =
      .ok ((entriesAround n i data fields).map fun e => (e.1.plainText, e.2.preview)) := by
    rw [excerpt, haround, reportedExcerpt_eq, List.map_map]
    · rfl
    · intro shown hshown
      obtain ⟨e, he, rfl⟩ := List.mem_map.mp hshown
      exact htexts _ ((nearby_sublist n i fields).subset (mem_entriesAround.mp he).1)
    · have hkeys : ((nearby n i fields).filter data.has).Pairwise fun k l => k.same l = false :=
        (hfields.sublist (nearby_sublist n i fields)).filter _
      rw [← keys_entriesAround] at hkeys
      exact List.pairwise_map.mpr (List.pairwise_map.mp hkeys)
  unfold finding at h
  split at h
  · cases h
  · rw [hexcerpt] at h
    cases hname : reportedField field with
    | ok name =>
      rw [hname] at h
      cases h
      rfl
    | error obstacle =>
      rw [hname] at h
      cases obstacle <;> cases h

/-- A fault that is reported is reported with what is around its place. -/
theorem Fault.shows_of_finding {fault : Fault} (hfields : ∀ f ∈ schema, f.1.IsText)
    (hschema : Entries.Distinct schema) (hkeys : ∀ e ∈ data, e.1.IsText) (hdata : data.Distinct)
    (hn : 0 < n) (hplace : (orderedFields data schema)[i]? = some fault.field)
    (h : fault.finding known n data schema = .ok issue) :
    issue.field = fault.field.reportable? ∧
      issue.Shows (entriesAround n i data (orderedFields data schema)) := by
  have htexts := isText_of_mem_orderedFields hfields hkeys
  have hdistinct := pairwise_orderedFields hschema hdata
  cases fault with
  | declared field descriptor =>
    have hsays := Complaint.says_of_declaredFinding h
    obtain ⟨name, hname, hissue, -⟩ := hsays.path_eq
    simp only [Fault.finding, Complaint.declaredFinding] at h
    split at h
    · exact ⟨hissue.trans hname.symm,
        Complaint.shows_of_finding htexts hdistinct hn hplace h⟩
    · cases h
  | undeclared field value =>
    obtain ⟨name, hname, hissue, -⟩ := (Complaint.says_of_finding h).path_eq
    exact ⟨hissue.trans hname.symm, Complaint.shows_of_finding htexts hdistinct hn hplace h⟩

/-- Among texts, a fault can be shown where the descriptor and what is around the field can be
written. -/
theorem Fault.canBeShown_iff {fault : Fault} (hfields : ∀ f ∈ schema, f.1.IsText)
    (hschema : Entries.Distinct schema) (hkeys : ∀ e ∈ data, e.1.IsText) (hdata : data.Distinct)
    (hn : 0 < n) (hplace : (orderedFields data schema)[i]? = some fault.field) :
    fault.CanBeShown n data schema ↔
      (∀ d, fault.descriptor? = some d → d.isWritable = true) ∧
        ∀ e ∈ entriesAround n i data (orderedFields data schema), e.2.isWritable = true := by
  have htexts := isText_of_mem_orderedFields hfields hkeys
  have hreportable {k : Key} (hk : k.IsText) : k.reportable?.isSome = true := by
    obtain ⟨mark, s, rfl⟩ := hk
    rfl
  have haround := @neighbours_eq_entriesAround data _ _ _ _ (pairwise_orderedFields hschema hdata)
    hn hplace
  constructor
  · intro h
    exact ⟨h.descriptor, fun e he => (h.neighbours e (haround ▸ he)).2⟩
  · rintro ⟨hdescriptor, hvalues⟩
    refine ⟨hreportable (htexts _ (List.mem_of_getElem? hplace)), hdescriptor, fun e he => ?_⟩
    exact ⟨hreportable (htexts _ (mem_neighbours he).1), hvalues e (haround ▸ he)⟩

end Shown

/-! ### Previews -/

/-- A preview of a text: the text itself if it is short, else its begin and three dots. -/
structure IsPreview (text preview : String) : Prop where
  short : Text.length text ≤ 40 → preview = text
  long : 40 < Text.length text →
    Text.pointsOf preview = (Text.pointsOf text).take 37 ++ Text.pointsOf "..."

theorem isPreview_preview (v : Value) : IsPreview v.shown v.preview where
  short h := by
    rw [Value.preview, previewText,
      if_neg (show ¬ previewLength < Text.length v.shown from Nat.not_lt.mpr h)]
  long h := by
    have hpoints : ∀ n ∈ (Text.pointsOf v.shown).take 37, n < 0x110000 :=
      fun n hn => Text.lt_of_mem_points n (List.mem_of_mem_take hn)
    have hcut : v.preview = Text.take 37 v.shown ++ "..." := by
      rw [Value.preview, previewText, if_pos (show previewLength < Text.length v.shown from h)]
      rfl
    rw [hcut, Text.pointsOf, String.toList_append, Text.take, Text.ofPoints, String.toList_ofList,
      Text.points_spellAll_append hpoints]
    rfl

/-! ### The neighbourhood -/

section Neighbourhood

variable {known : Option (List String)} {v : Validator} {data : Value} {es : Entries Value}
  {schema : Schema} {mode : Mode} {label : Option String} {n i : Nat} {issue : Issue}

/-- An issue about a field is reported of a fault in it. -/
theorem exists_fault_of_mem_issues (hv : v.enabled = true) (hdata : data.entries? = some es)
    {verdict : Verdict}
    (hverdict : (validate known v data schema mode label).answer = .ok verdict ∨
      (collect known v data schema mode label).answer = .ok verdict)
    (hissue : issue ∈ verdict.issues) {name : String} (hname : issue.field = some name) :
    ∃ fault ∈ faults known es schema mode,
      fault.finding known v.excerpt es schema = .ok issue := by
  have hfound := ok_mem_findings hv hverdict hissue
  by_cases hschema : schema = []
  · -- The only issue of an empty schema is about no field.
    rw [hschema, findings, if_pos rfl, List.mem_singleton] at hfound
    cases hfound
    cases hname
  · rw [findings_eq_map_faults hschema hdata] at hfound
    obtain ⟨fault, hfault, hfinding⟩ := List.mem_map.mp hfound
    exact ⟨fault, hfault, hfinding⟩

/-- What is shown has a place within the window, so there is not too much of it. -/
theorem Issue.Shows.length_le (h : issue.Shows (entriesAround n i es (orderedFields es schema))) :
    issue.context.length ≤ 2 * n + 1 := by
  rw [h, List.length_map, entriesAround]
  exact Nat.le_trans (List.length_filterMap_le _ _) (length_nearby_le n i _)

/-- The field is shown where the data has it. -/
theorem Issue.Shows.has_iff (h : issue.Shows (entriesAround n i es (orderedFields es schema)))
    (htexts : ∀ k ∈ orderedFields es schema, k.IsText) {mark : Mark} {name : String}
    (hplace : (orderedFields es schema)[i]? = some (.atom mark (.str name))) :
    (∃ preview, (name, preview) ∈ issue.context) ↔ es.has (.str name) = true := by
  have hsame (mark : Mark) : Key.same (.atom mark (.str name)) (.str name) = true := by
    simp [Key.same, Key.canon]
  rw [h]
  constructor
  · rintro ⟨preview, hmem⟩
    obtain ⟨⟨k, w⟩, he, heq⟩ := List.mem_map.mp hmem
    obtain ⟨hnear, hfind⟩ := mem_entriesAround.mp he
    obtain ⟨mark', s, rfl⟩ := htexts k ((nearby_sublist n i _).subset hnear)
    obtain rfl : s = name := congrArg Prod.fst heq
    rw [Entries.has, ← Entries.find?_congr (hsame mark')]
    exact Option.isSome_iff_exists.mpr ⟨w, hfind⟩
  · intro hhas
    obtain ⟨w, hfind⟩ := Option.isSome_iff_exists.mp hhas
    rw [← Entries.find?_congr (hsame mark)] at hfind
    exact ⟨w.preview, List.mem_map.mpr ⟨(.atom mark (.str name), w),
      mem_entriesAround.mpr ⟨mem_nearby_self hplace n, hfind⟩, rfl⟩⟩

/-- What is shown under a text is a preview of what the data has there. -/
theorem Issue.Shows.exists_preview (h : issue.Shows (entriesAround n i es (orderedFields es schema)))
    (htexts : ∀ k ∈ orderedFields es schema, k.IsText) :
    ∀ e ∈ issue.context, ∃ value, es.find? (.str e.1) = some value ∧ IsPreview value.shown e.2 := by
  rw [h]
  intro shown hshown
  obtain ⟨⟨k, w⟩, he, rfl⟩ := List.mem_map.mp hshown
  obtain ⟨hnear, hfind⟩ := mem_entriesAround.mp he
  obtain ⟨mark, s, rfl⟩ := htexts k ((nearby_sublist n i _).subset hnear)
  have hsame : Key.same (.atom mark (.str s)) (.str s) = true := by simp [Key.same, Key.canon]
  exact ⟨w, (Entries.find?_congr hsame es).symm.trans hfind, isPreview_preview w⟩

/-- The context of an issue about a field is what the data has at most `n` places from the field, in
order, each value by its preview. So it has at most `2 * n + 1` entries, and one for the field itself
exactly if the data has it. Everything that can be wrong is wrong with a field that has a place, and all
of it is reported exactly if what is around these places, and every descriptor at fault, can be
written. -/
theorem issue_shows_neighbourhood (hv : v.enabled = true) (hn : 0 < n) (hsize : v.excerpt = n)
    (hfields : ∀ f ∈ schema, f.1.IsText) (hschema : Entries.Distinct schema)
    (hdata : data.entries? = some es) (hkeys : ∀ e ∈ es, e.1.IsText) (hdistinct : es.Distinct)
    (known : Option (List String)) (mode : Mode) (label : Option String) :
    (∀ verdict, (validate known v data schema mode label).answer = .ok verdict ∨
        (collect known v data schema mode label).answer = .ok verdict →
      ∀ issue ∈ verdict.issues, ∀ name, issue.field = some name →
        ∃ (i : Nat) (mark : Mark),
          (orderedFields es schema)[i]? = some (.atom mark (.str name)) ∧
          issue.context = (entriesAround n i es (orderedFields es schema)).map
            (fun e => (e.1.plainText, e.2.preview)) ∧
          issue.context.length ≤ 2 * n + 1 ∧
          ((∃ preview, (name, preview) ∈ issue.context) ↔ es.has (.str name) = true) ∧
          ∀ e ∈ issue.context, ∃ value,
            es.find? (.str e.1) = some value ∧ IsPreview value.shown e.2) ∧
    (schema ≠ [] →
      (∀ fault ∈ faults known es schema mode, ∃ i : Nat,
        (orderedFields es schema)[i]? = some fault.field ∧
        ((∃ issue, fault.finding known n es schema = .ok issue) ↔
          (∀ d, fault.descriptor? = some d → d.isWritable = true) ∧
            ∀ e ∈ entriesAround n i es (orderedFields es schema), e.2.isWritable = true)) ∧
      ((∃ verdict, (collect known v data schema mode label).answer = .ok verdict) ↔
        ∀ fault ∈ faults known es schema mode,
          ∃ issue, fault.finding known n es schema = .ok issue)) := by
  have htexts := isText_of_mem_orderedFields hfields hkeys
  have hok (finding : Finding) : finding.isOk = true ↔ ∃ issue, finding = .ok issue := by
    cases finding <;> simp [Except.isOk, Except.toBool]
  refine ⟨fun verdict hverdict issue hissue name hname => ?_, fun hnonempty => ⟨?_, ?_⟩⟩
  · obtain ⟨fault, hfault, hfinding⟩ := exists_fault_of_mem_issues hv hdata hverdict hissue hname
    obtain ⟨i, hplace⟩ := exists_place_of_mem_faults hfault
    rw [hsize] at hfinding
    obtain ⟨hfield, hshows⟩ :=
      Fault.shows_of_finding hfields hschema hkeys hdistinct hn hplace hfinding
    obtain ⟨mark, s, hkey⟩ := htexts _ (List.mem_of_getElem? hplace)
    obtain rfl : name = s := by
      rw [hname, hkey] at hfield
      exact Option.some.inj hfield
    rw [hkey] at hplace
    exact ⟨i, mark, hplace, hshows, hshows.length_le, hshows.has_iff htexts hplace,
      hshows.exists_preview htexts⟩
  · intro fault hfault
    obtain ⟨i, hplace⟩ := exists_place_of_mem_faults hfault
    refine ⟨i, hplace, ?_⟩
    rw [← hok, Fault.isOk_finding]
    exact Fault.canBeShown_iff hfields hschema hkeys hdistinct hn hplace
  · have hcollect := @collectAnswers_iff known v data schema mode label hv
    rw [CollectAnswers, findings_eq_map_faults hnonempty hdata, hsize] at hcollect
    rw [hcollect]
    simp only [List.forall_mem_map, hok]

end Neighbourhood

theorem distinct_censusSchema : censusSchema.Distinct := by
  unfold Entries.Distinct
  decide +kernel

theorem distinct_censusEntries (age : Value) : (censusEntries age).Distinct := by
  simp [Entries.Distinct, censusEntries]

/-- Around the size in a census there are the age, two places in front of it, and the town, which is
not declared and comes behind it. -/
theorem census_shows_neighbourhood :
    ∃ verdict issue,
      (collect none {} (.dict none (censusEntries (.str "old"))) censusSchema .strict none).answer =
        .ok verdict ∧
      issue ∈ verdict.issues ∧ issue.field = some "size" ∧
      issue.context = [("age", "'old'"), ("town", "'Ulm'")] ∧ issue.context.length ≤ 5 ∧
      ¬ ∃ preview, ("size", preview) ∈ issue.context := by
  obtain ⟨verdict, hverdict, hissues⟩ : ∃ verdict,
      (collect none {} (.dict none (censusEntries (.str "old"))) censusSchema .strict none).answer =
        .ok verdict ∧
      (verdict.issues.any fun issue => issue.field == some "size" &&
        issue.context == [("age", "'old'"), ("town", "'Ulm'")]) = true :=
    Act.exists_of_passes (by decide +kernel)
  obtain ⟨issue, hmem, hissue⟩ := List.any_eq_true.mp hissues
  obtain ⟨hfield, hcontext⟩ : issue.field = some "size" ∧
      issue.context = [("age", "'old'"), ("town", "'Ulm'")] := by simpa using hissue
  have hdata : (Value.dict none (censusEntries (.str "old"))).entries? =
      some (censusEntries (.str "old")) := rfl
  obtain ⟨hshows, -⟩ := @issue_shows_neighbourhood {} _ _ _ 2 rfl (by decide) rfl
    isText_of_mem_censusSchema distinct_censusSchema hdata (isText_of_mem_censusEntries _)
    (distinct_censusEntries (.str "old")) none .strict none
  obtain ⟨i, mark, -, -, hlength, hhas, -⟩ :=
    hshows verdict (.inr hverdict) issue hmem "size" hfield
  refine ⟨verdict, issue, hverdict, hmem, hfield, hcontext, hlength, ?_⟩
  rw [hhas]
  decide

/-- Not every fault is reported with what is around it: next to a name that is no text there may be a
number too long to be written. -/
theorem not_every_fault_is_reported :
    ¬ ∀ (n : Nat) (schema : Schema) (es : Entries Value), 0 < n → (∀ f ∈ schema, f.1.IsText) →
      Entries.Distinct schema → (∀ e ∈ es, e.1.IsText) → es.Distinct →
        ∀ fault ∈ faults none es schema .strict,
          ∃ issue, fault.finding none n es schema = .ok issue := by
  intro h
  have hmem : Fault.declared (.str "name") (.str "String") ∈
      faults none agedEntries nameSchema .strict := by
    refine List.mem_append_left _ (List.mem_map.mpr ⟨(.str "name", .str "String"), ?_, rfl⟩)
    refine List.mem_filter.mpr ⟨List.mem_singleton_self _, ?_⟩
    decide +kernel
  obtain ⟨issue, hissue⟩ := h 2 nameSchema agedEntries (by decide) (by simp [nameSchema, Key.IsText])
    (List.pairwise_singleton ..) (by simp [agedEntries, Key.IsText])
    (by simp [Entries.Distinct, agedEntries]) _ hmem
  have hfails : (Fault.finding none (2 : Nat) agedEntries nameSchema
      (.declared (.str "name") (.str "String"))).isOk = false := by decide +kernel
  rw [hissue] at hfails
  cases hfails

end TypedRecord
