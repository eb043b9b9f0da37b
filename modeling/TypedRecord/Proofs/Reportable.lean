import TypedRecord.Proofs.Conformance

/-!
# TypedRecord.Proofs.Reportable

Data that can always be reported on.

Validation fails, other than by a verdict, only where an issue cannot be built: the field it is about,
or one of the neighbours that it shows, is no text, or something in it is a number too long to be
written. Where keys are texts and numbers can be written, at every depth, every verdict is reached
(`Catalog.exists_judge`), and so wrapping comes to an end whatever it builds on the way
(`settles_of_reportable`).
-/

namespace TypedRecord

/-! ### Values that can be written -/

mutual

/-- A value whose mappings have texts for keys, and whose numbers can be written. -/
def Value.IsReportable : Value → Prop
  | .list _ items | .tuple _ items => AreReportable items
  | .dict _ entries | .view _ entries => AreReportableEntries entries
  | v => v.isWritable = true

def AreReportable : List Value → Prop
  | [] => True
  | v :: vs => v.IsReportable ∧ AreReportable vs

def AreReportableEntries : List (Key × Value) → Prop
  | [] => True
  | (k, v) :: es => k.IsText ∧ v.IsReportable ∧ AreReportableEntries es

end

theorem Key.IsText.isWritable {k : Key} (h : k.IsText) : k.isWritable = true := by
  obtain ⟨mark, s, rfl⟩ := h
  rfl

mutual

theorem Value.IsReportable.isWritable : {v : Value} → v.IsReportable → v.isWritable = true
  | .list _ _, h => by simpa [Value.isWritable] using AreReportable.areWritable h
  | .tuple _ _, h => by simpa [Value.isWritable] using AreReportable.areWritable h
  | .dict _ _, h => by simpa [Value.isWritable] using AreReportableEntries.areWritable h
  | .view _ _, h => by simpa [Value.isWritable] using AreReportableEntries.areWritable h
  | .record _ _ _, h | .reference _, h | .atom _ _, h | .buffer _ _, h | .set _, h => h

theorem AreReportable.areWritable : {vs : List Value} → AreReportable vs →
    areWritableItems vs = true
  | [], _ => rfl
  | _ :: _, h => by simp [areWritableItems, h.1.isWritable, AreReportable.areWritable h.2]

theorem AreReportableEntries.areWritable : {es : List (Key × Value)} → AreReportableEntries es →
    areWritableEntries es = true
  | [], _ => rfl
  | (_, _) :: _, h => by
      simp [areWritableEntries, h.1.isWritable, h.2.1.isWritable,
        AreReportableEntries.areWritable h.2.2]

end

theorem areWritableEntries_of_forall {es : List (Key × Value)}
    (h : ∀ e ∈ es, e.1.IsText ∧ e.2.isWritable = true) : areWritableEntries es = true := by
  induction es with
  | nil => rfl
  | cons e es ih =>
      obtain ⟨hhead, htail⟩ := List.forall_mem_cons.mp h
      obtain ⟨k, v⟩ := e
      simp [areWritableEntries, hhead.1.isWritable, hhead.2, ih htail]

@[simp] theorem isWritable_settle_none (fresh : Bool) (v : Value) :
    (settle fresh none v).isWritable = v.isWritable := by
  cases fresh <;> simp [settle]

theorem Value.isWritable_of_items {v : Value} {items : List Value} (h : v.items? = some items) :
    v.isWritable = areWritableItems items := by
  cases v with
  | list _ _ | tuple _ _ => simp_all [Value.items?, Value.isWritable]
  | _ => simp [Value.items?] at h

/-! ### Issues that can be built -/

/-- Parts that are all in order are read. -/
theorem Shape.exists_all_ok {α : Type} {parts : List (Shaped α)}
    (h : ∀ part ∈ parts, ∃ a, part = .ok a) : ∃ as, Shape.all parts = .ok as := by
  induction parts with
  | nil => exact ⟨[], rfl⟩
  | cons part parts ih =>
      obtain ⟨⟨a, rfl⟩, hrest⟩ := List.forall_mem_cons.mp h
      obtain ⟨as, has⟩ := ih hrest
      exact ⟨a :: as, by simp [Shape.all, Shape.both, has, Except.map]⟩

/-- A part that is in order is so wherever it stands. -/
@[simp]
theorem Shape.at'_ok {α : Type} (place : Place) (a : α) :
    Shape.at' place (.ok a) = .ok a := rfl

/-- A field that is a text is reported by that text. -/
theorem reportedField_text (mark : Mark) (s : String) :
    reportedField (.atom mark (.str s)) = .ok s := by
  have htext : Shape.text (.ofKey (.atom mark (.str s))) = .ok s := rfl
  simp only [reportedField, htext]
  cases Shape.number (.ofKey (.atom mark (.str s))) <;>
    simp [Shape.both, Except.map]

theorem reportedExcerpt_of_texts {es : List (Key × String)} (h : ∀ e ∈ es, e.1.IsText) :
    ∃ context, reportedExcerpt es = .ok context := by
  have hparts : ∃ parts, Shape.all (es.map fun (k, v) =>
      Shape.at' (Shape.placeOf k) (Shape.both (Shape.name k) (.ok v))) = .ok parts := by
    refine Shape.exists_all_ok ?_
    simp only [List.mem_map, forall_exists_index, and_imp, Prod.forall]
    rintro _ k v hmem rfl
    obtain ⟨mark, s, rfl⟩ := h _ hmem
    exact ⟨(s, v), rfl⟩
  obtain ⟨parts, hparts⟩ := hparts
  refine ⟨Named.ofList parts, ?_⟩
  unfold reportedExcerpt Shape.named
  rw [hparts]
  rfl

/-- What the neighbours of a field are among. -/
theorem mem_neighbours {size : Int} {data : Entries Value} {fields : List Key} {field : Key}
    {e : Key × Value} (h : e ∈ neighbours size data fields field) :
    e.1 ∈ fields ∧ data.find? e.1 = some e.2 := by
  simp only [neighbours, List.mem_filterMap, Option.map_eq_some_iff] at h
  obtain ⟨k, hk, v, hfind, rfl⟩ := h
  refine ⟨?_, hfind⟩
  unfold window at hk
  split at hk
  · simp at hk
  · exact List.mem_of_mem_take (List.mem_of_mem_drop hk)

/-- Neighbours can be written where the data can. -/
theorem isWritable_of_mem_neighbours {size : Int} {data : Entries Value} {fields : List Key}
    {field : Key} (hdata : ∀ e ∈ data, e.2.isWritable = true) :
    ∀ e ∈ neighbours size data fields field, e.2.isWritable = true := by
  intro e he
  obtain ⟨k, hmem, _⟩ := Entries.exists_mem_of_find? (mem_neighbours he).2
  exact hdata (k, e.2) hmem

/-- An issue is of some kind and about some field. -/
structure Issue.IsAbout (issue : Issue) (field : Key) (kind : IssueKind) : Prop where
  kind_eq : issue.kind = kind
  field_eq : issue.field = field.reportable?

/-- Every complaint about a text makes an issue, if the neighbours that it shows can be written. -/
theorem Complaint.exists_finding (c : Complaint) {size : Int} {data : Entries Value}
    {fields : List Key} {field : Key} (hfield : field.IsText) (hfields : ∀ k ∈ fields, k.IsText)
    (hshown : ∀ e ∈ neighbours size data fields field, e.2.isWritable = true) :
    ∃ issue, c.finding size data fields field = .ok issue ∧ issue.IsAbout field c.kind := by
  have hwritable : ((neighbours size data fields field).any fun e => !e.2.isWritable) = false := by
    simpa using hshown
  obtain ⟨context, hcontext⟩ : ∃ context,
      reportedExcerpt (excerpt size data fields field) = .ok context := by
    refine reportedExcerpt_of_texts fun e he => ?_
    obtain ⟨n, hn, rfl⟩ := List.mem_map.mp he
    exact hfields _ (mem_neighbours hn).1
  obtain ⟨mark, s, rfl⟩ := hfield
  refine ⟨⟨c.kind, some s, c.expected, c.actual, .field s :: c.positions.map .index, c.message,
    context⟩, ?_, rfl, rfl⟩
  simp [finding, Key.isWritable, Atom.isWritable, hwritable, reportedField_text, hcontext,
    Shape.both]

theorem isText_of_mem_orderedFields {data : Entries Value} {schema : Schema}
    (hschema : ∀ f ∈ schema, f.1.IsText) (hkeys : ∀ e ∈ data, e.1.IsText) :
    ∀ k ∈ orderedFields data schema, k.IsText := by
  intro k hk
  simp only [orderedFields, Entries.keys, List.mem_append, List.mem_map, List.mem_filter] at hk
  rcases hk with ⟨f, hf, rfl⟩ | ⟨⟨e, he, rfl⟩, _⟩
  · exact hschema f hf
  · exact hkeys e he

/-- All that can be wrong with data that can be reported on makes an issue. -/
theorem exists_of_mem_findings {known : Option (List String)} {size : Int} {mark : Mark}
    {data : Entries Value} {schema : Schema} {mode : Mode} (hschema : ∀ f ∈ schema, f.1.IsText)
    (hdeclared : ∀ f ∈ schema, f.2.isWritable = true) (hkeys : ∀ e ∈ data, e.1.IsText)
    (hdata : ∀ e ∈ data, e.2.isWritable = true) :
    ∀ finding ∈ findings known size (.dict mark data) schema mode,
      ∃ issue, finding = .ok issue := by
  have hfields := isText_of_mem_orderedFields hschema hkeys
  intro finding hfinding
  simp only [findings, Value.entries?] at hfinding
  split at hfinding
  · obtain rfl := List.mem_singleton.mp hfinding
    exact ⟨_, rfl⟩
  · rcases List.mem_append.mp hfinding with hfound | hundeclared
    · simp only [declaredFindings, List.mem_filterMap, Option.map_eq_some_iff] at hfound
      obtain ⟨f, hf, c, _, rfl⟩ := hfound
      rw [Complaint.declaredFinding, if_pos (hdeclared f hf)]
      obtain ⟨issue, hissue, _⟩ :=
        c.exists_finding (hschema f hf) hfields (isWritable_of_mem_neighbours hdata)
      exact ⟨issue, hissue⟩
    · cases mode with
      | loose => simp at hundeclared
      | strict =>
          simp only [undeclaredFindings, List.mem_map, List.mem_filter] at hundeclared
          obtain ⟨e, ⟨he, _⟩, rfl⟩ := hundeclared
          obtain ⟨issue, hissue, _⟩ := (undeclaredComplaint e.1 e.2).exists_finding (hkeys e he)
            hfields (isWritable_of_mem_neighbours hdata)
          exact ⟨issue, hissue⟩

namespace Catalog

/-- The same for what is seen of the data of a record. -/
theorem exists_of_mem_findings_visible {cat : Catalog} {t : TypeId} {known : Option (List String)}
    {size : Int} {mode : Mode} {candidate : Entries Value}
    (hfields : ∀ f ∈ cat.schemaOf t, f.1.IsText)
    (hdeclared : ∀ f ∈ cat.schemaOf t, f.2.isWritable = true)
    (hcandidate : ∀ e ∈ candidate, e.1.IsText ∧ e.2.isWritable = true) :
    ∀ finding ∈ findings known size (.dict none (cat.visible t candidate)) (cat.schemaOf t) mode,
      ∃ issue, finding = .ok issue := by
  have hvisible : ∀ e ∈ cat.visible t candidate, e.1.IsText ∧ e.2.isWritable = true :=
    fun e he => hcandidate e (Entries.mem_without.mp he).1
  exact exists_of_mem_findings hfields hdeclared (fun e he => (hvisible e he).1)
    fun e he => (hvisible e he).2

/-- Judging data that can be reported on comes to a verdict. -/
theorem exists_judge {cat : Catalog} {t : TypeId} (hfields : ∀ f ∈ cat.schemaOf t, f.1.IsText)
    (hdeclared : ∀ f ∈ cat.schemaOf t, f.2.isWritable = true) (mode : Mode) (setup : Setup)
    {candidate : Entries Value} (hcandidate : ∀ e ∈ candidate, e.1.IsText ∧ e.2.isWritable = true) :
    ∃ out, (cat.judge t mode setup candidate).answer = .ok out := by
  obtain ⟨verdict, hverdict⟩ : ∃ verdict,
      (cat.validateAs t setup.validator mode candidate).answer = .ok verdict := by
    have hfindings := @exists_of_mem_findings_visible cat t (cat.known setup.validator.registry)
      setup.validator.excerpt mode candidate hfields hdeclared hcandidate
    unfold validateAs
    rw [answer_validate]
    cases setup.validator.enabled with
    | false => exact ⟨_, rfl⟩
    | true =>
      cases hlist : findings (cat.known setup.validator.registry) setup.validator.excerpt
          (.dict none (cat.visible t candidate)) (cat.schemaOf t) mode with
      | nil => exact ⟨_, rfl⟩
      | cons first rest =>
          obtain ⟨issue, rfl⟩ := hfindings first (by simp [hlist])
          exact ⟨_, rfl⟩
  by_cases hschema : cat.schemaOf t = []
  · simp [judge, hschema]
  · simp [answer_judge hschema, hverdict, Except.map]

end Catalog

/-- Descriptors that are texts can be written. -/
theorem Catalog.Registers.declared_isWritable {cat : Catalog} {r : RegistryId} {name : String}
    {t : TypeId} (ht : cat.Registers r name t) : ∀ f ∈ cat.schemaOf t, f.2.isWritable = true := by
  intro f hf
  obtain ⟨mark, s, hs⟩ := ht.texts f hf
  rw [hs]
  rfl

/-! ### Wrapping comes to an end -/

section Settling

variable {cat : Catalog} {r : RegistryId} {mode : Mode} {fresh : Bool}

/-- Wrapping a value comes to an end and leaves something that can be written. -/
def Settles (cat : Catalog) (r : RegistryId) (mode : Mode) (fresh : Bool) (d : Descriptor)
    (v : Value) : Prop :=
  ∃ w, settled cat mode (some r) fresh d v = .ok w ∧ w.isWritable = true

/-- Wrapping items comes to an end and leaves what can be written. -/
def ItemsSettle (cat : Catalog) (r : RegistryId) (mode : Mode) (fresh : Bool)
    (element : Descriptor) (items : List Value) : Prop :=
  ∃ ws, settledItems cat mode (some r) fresh element items = .ok ws ∧ areWritableItems ws = true

/-- The candidate for a record can be made, and can be reported on. -/
def Catalog.Prepares (cat : Catalog) (r : RegistryId) (mode : Mode) (t : TypeId)
    (es : List (Key × Value)) : Prop :=
  ∃ candidate, (prepare cat mode (some r) t es).answer = .ok candidate ∧
    ∀ e ∈ candidate, e.1.IsText ∧ e.2.isWritable = true

theorem settles_of_stands {d : Descriptor} {v : Value}
    (h : settled cat mode (some r) fresh d v = .ok (settle fresh none v))
    (hv : v.isWritable = true) : Settles cat r mode fresh d v :=
  ⟨_, h, by simpa using hv⟩

/-- A sequence at a typed array settles where its items do. -/
theorem settles_items_array {v : Value} {items : List Value} (h : v.items? = some items)
    {element : Descriptor} (hitems : ∀ fresh', ItemsSettle cat r mode fresh' element items)
    (nullable : Bool) : Settles cat r mode fresh (.array element nullable) v := by
  obtain ⟨fresh', make, hsettled, hmake⟩ :=
    @settled_of_items cat mode (some r) fresh v items h element nullable
  obtain ⟨ws, hws, hwritable⟩ := hitems fresh'
  refine ⟨make ws, ?_, ?_⟩
  · rw [hsettled, hws]
    rfl
  · rw [Value.isWritable_of_items (hmake ws), hwritable]

/-- A mapping at a name settles, given that the data of records does: the record inside is built or
not, but in either case there is a verdict. -/
theorem settles_entries_named (hr : cat.SelfContained r) {v : Value} {entries : Entries Value}
    (h : v.entries? = some entries) (hwhole : ThroughoutEntries Value.IsClear entries)
    (hv : v.isWritable = true)
    (hentries : ∀ {name t}, cat.Registers r name t → cat.Prepares r mode t entries)
    (name : String) (nullable : Bool) :
    Settles cat r mode fresh (.named name nullable) v := by
  have hwrapping := cat.wrapping?_named (some r) name nullable
  cases hfound : cat.wrapping? (some r) (.named name nullable) with
  | none => exact settles_of_stands (settled_of_none hfound v) hv
  | some wrapping =>
      rw [hfound] at hwrapping
      split at hwrapping
      · obtain ⟨factory, hfind, rfl⟩ := Option.map_eq_some_iff.mp hwrapping.symm
        obtain ⟨t, rfl, ht⟩ := hr name factory hfind
        obtain ⟨candidate, hcandidate, hall⟩ := hentries ht
        have hbuild := @answer_wrap?_build cat mode (some r) fresh _ _ _ _ _ hfound h
        obtain ⟨⟨verdict, built⟩, hout⟩ := Catalog.exists_judge ht.fields ht.declared_isWritable mode
          (cat.defaultSetup t) hall
        have hregistry : (cat.defaultSetup t).registry = some r := ht.registryOf_eq
        have hconstruct : (cat.construct t mode (cat.defaultSetup t) entries).answer =
            .ok (verdict, built) := by
          rw [Catalog.answer_construct_of_whole hwhole, hregistry, hcandidate]
          exact hout
        simp only [Settles, settled, hbuild, hconstruct]
        -- A valid record holds its candidate; in the place of another one the mapping stays.
        cases hvalid : built.header.valid with
        | false => exact ⟨_, rfl, by simpa [hvalid] using hv⟩
        | true =>
            refine ⟨built.toValue none, by simp [bind, Except.bind, Except.map, hvalid, settle], ?_⟩
            have hdata := (Catalog.judged_of_judge hout).data_eq
            simp only [Record.toValue, Value.isWritable, hdata]
            cases verdict.valid with
            | true => exact areWritableEntries_of_forall hall
            | false => rfl
      · cases hwrapping

mutual

/-- Whole values that can be reported on settle, whether or not what is built of them is valid. -/
theorem settles_of_reportable (hr : cat.SelfContained r) (fresh : Bool) :
    (d : Descriptor) → (v : Value) → v.IsWhole → v.IsReportable → Settles cat r mode fresh d v
  | .named name nullable, .list _ _, _, hv | .named name nullable, .tuple _ _, _, hv =>
      settles_of_stands (settled_items_named rfl name nullable) hv.isWritable
  | .array element nullable, .list _ items, hwhole, hv
  | .array element nullable, .tuple _ items, hwhole, hv =>
      settles_items_array rfl
        (fun fresh' => itemsSettle_of_reportable hr fresh' element items hwhole.2 hv) nullable
  | .named name nullable, .dict _ entries, hwhole, hv
  | .named name nullable, .view _ entries, hwhole, hv =>
      settles_entries_named hr rfl hwhole.2 hv.isWritable
        (fun ht => Catalog.prepares_of_reportable hr ht entries hwhole.2 hv) name nullable
  | .array element nullable, .dict _ _, _, hv | .array element nullable, .view _ _, _, hv =>
      settles_of_stands (settled_entries_array rfl element nullable) hv.isWritable
  | d, .atom _ _, _, hv | d, .buffer _ _, _, hv | d, .set _, _, hv | d, .record _ _ _, _, hv =>
      ⟨_, settled_of_solid rfl d, hv.isWritable⟩
  | _, .reference _, hwhole, _ => hwhole.elim

theorem itemsSettle_of_reportable (hr : cat.SelfContained r) (fresh : Bool) (element : Descriptor) :
    (items : List Value) → ThroughoutItems Value.IsClear items → AreReportable items →
      ItemsSettle cat r mode fresh element items
  | [], _, _ => ⟨[], rfl, rfl⟩
  | v :: vs, hwhole, hvs => by
      obtain ⟨w, hw, hhead⟩ := settles_of_reportable hr fresh element v hwhole.1 hvs.1
      obtain ⟨ws, hws, htail⟩ := itemsSettle_of_reportable hr fresh element vs hwhole.2 hvs.2
      exact ⟨w :: ws, settledItems_cons_eq_ok.mpr ⟨w, ws, hw, hws, rfl⟩, by
        simp [areWritableItems, hhead, htail]⟩

theorem Catalog.prepares_of_reportable (hr : cat.SelfContained r) {name : String} {t : TypeId}
    (ht : cat.Registers r name t) :
    (es : List (Key × Value)) → ThroughoutEntries Value.IsClear es → AreReportableEntries es →
      cat.Prepares r mode t es
  | [], _, _ => ⟨[], rfl, by simp⟩
  | (k, v) :: es, hwhole, hes => by
      obtain ⟨w, hw, hhead⟩ : ∃ w, settledField cat mode (some r) t k v = .ok w ∧
          w.isWritable = true := by
        rw [settledField, ht.wrappingDescriptor?_eq]
        cases cat.declared? t k with
        | none => exact ⟨_, rfl, by simpa using hes.2.1.isWritable⟩
        | some d => exact settles_of_reportable hr true d v hwhole.1 hes.2.1
      obtain ⟨rest, hrest, htail⟩ := Catalog.prepares_of_reportable hr ht es hwhole.2 hes.2.2
      exact ⟨(k, w) :: rest, answer_prepare_cons_eq_ok.mpr ⟨w, rest, hw, hrest, rfl⟩,
        List.forall_mem_cons.mpr ⟨⟨hes.1, hhead⟩, htail⟩⟩

end

end Settling

end TypedRecord
