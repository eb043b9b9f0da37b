import TypedRecord.Proofs.Copied
import TypedRecord.Proofs.Sorting
import TypedRecord.Proofs.Record.Unchecked

/-!
# TypedRecord.Proofs.Record.EmptyStart

Making a record of data, and making an empty one and updating it with the data.

The one prepares a candidate, judges it, and takes it or leaves it; the other stores value by value,
judges what it has stored, and may take it back. Candidate and stored data are the same but for what was
copied (`Wraps.exists_wrapsTo`, `Wraps.exists_prepare`), and so are judged alike. So the update is
accepted exactly where the data is, and what is left of a refused update is what a refused write leaves
(`make_agrees_with_update`).

Copying is the one thing that the two do not share. Data that holds itself cannot be copied, so no record
is made of it, and yet an empty record may be updated with it (`not_make_agrees_with_update`).
-/

namespace TypedRecord

/-! ### Words for keys -/

/-- Texts can be compared. -/
theorem Key.comparable_text : Sorting.Comparable Key.precedes? Key.IsText := by
  rintro _ _ ⟨_, s, rfl⟩ ⟨_, t, rfl⟩
  exact ⟨_, rfl, trivial⟩

/-- Texts can be put in order, and so shown. -/
theorem Catalog.exists_shownKeysSorted {keys : List Key} (h : ∀ k ∈ keys, k.IsText) :
    ∃ words, shownKeysSorted keys = .ok words := by
  obtain ⟨sorted, hsorted, htexts⟩ := Sorting.ends_sort? Key.comparable_text h
  have hwritable : sorted.all Key.isWritable = true :=
    List.all_eq_true.mpr fun k hk => (htexts k hk).isWritable
  unfold shownKeysSorted Key.sorted?
  rw [hsorted]
  simp only [hwritable, if_true]
  exact ⟨_, rfl⟩

namespace Record

variable {cat : Catalog} {t : TypeId} {mode : Mode} {registry : Option RegistryId} {header : Header}

/-! ### The candidate and what is stored -/

/-- What wraps the fields of a record as those of a new record of some type. -/
structure Wraps (header : Header) (t : TypeId) (mode : Mode) (registry : Option RegistryId) :
    Prop where
  type_eq : header.type.id = t
  mode_eq : header.mode = mode
  registry_eq : header.registry = registry

/-- A field of a new record has the copy that a value written to it would have. -/
theorem Wraps.copy_settledField (h : Wraps header t mode registry) (cat : Catalog) (field : Key)
    (v : Value) :
    (settledField cat mode registry t field v).map Value.copy =
      (wrapped cat header field v).map Value.copy := by
  obtain ⟨rfl, rfl, rfl⟩ := h
  unfold settledField wrapped
  cases cat.wrappingDescriptor? header.type.id field with
  | error failure => rfl
  | ok descriptor =>
      cases descriptor with
      | none => simp [Except.map]
      | some d =>
          simp only [answer_wrap]
          exact copy_settled true d v

/-- A candidate is prepared of entries where they can be written one by one, and what is entered then has
the copy of the candidate. -/
theorem Wraps.exists_wrapsTo (h : Wraps header t mode registry) {es candidate : List (Key × Value)}
    (hprepare : (prepare cat mode registry t es).answer = .ok candidate) :
    ∃ ws, WrapsTo cat header es ws ∧ copyEntries ws = copyEntries candidate := by
  induction es generalizing candidate with
  | nil =>
      cases hprepare
      exact ⟨[], .nil, rfl⟩
  | cons e es ih =>
      obtain ⟨field, v⟩ := e
      obtain ⟨w, rest, hw, hrest, rfl⟩ := answer_prepare_cons_eq_ok.mp hprepare
      obtain ⟨ws, hws, hcopies⟩ := ih hrest
      have hcopy := h.copy_settledField cat field v
      rw [hw] at hcopy
      obtain ⟨w', hw', hsame⟩ := Act.map_eq_ok.mp hcopy.symm
      exact ⟨(field, w') :: ws, .cons hw' hws, by simp [copyEntries, hsame, hcopies]⟩

theorem Wraps.exists_prepare (h : Wraps header t mode registry) {es ws : List (Key × Value)}
    (hws : WrapsTo cat header es ws) :
    ∃ candidate, (prepare cat mode registry t es).answer = .ok candidate ∧
      copyEntries ws = copyEntries candidate := by
  induction hws with
  | nil => exact ⟨[], rfl, rfl⟩
  | @cons field v w hw es ws _ ih =>
      obtain ⟨rest, hrest, hcopies⟩ := ih
      have hcopy := h.copy_settledField cat field v
      rw [hw] at hcopy
      obtain ⟨w', hw', hsame⟩ := Act.map_eq_ok.mp hcopy
      exact ⟨(field, w') :: rest, answer_prepare_cons_eq_ok.mpr ⟨w', rest, hw', hrest, rfl⟩,
        by simp [copyEntries, hsame, hcopies]⟩

/-- Where values can be wrapped they are stored. -/
theorem run_store_of_wrapped {r : Record} {field : Key} {v w : Value}
    (h : wrapped cat r.header field v = .ok w) :
    ((store cat field v).run r).result = .ok () ∧
      ((store cat field v).run r).state = { r with data := r.data.put field w } := by
  obtain ⟨hstate, hresult⟩ := run_store cat field v r
  rw [wrapped_eq] at h
  obtain ⟨replacement, hincoming, rfl⟩ := Act.map_eq_ok.mp h
  rw [hincoming] at hstate hresult
  exact ⟨hresult, hstate⟩

theorem run_storeAll_of_wrapsTo {r : Record} {fields ws : List (Key × Value)}
    (h : WrapsTo cat r.header fields ws) :
    ((storeAll cat fields).run r).result = .ok () ∧
      ((storeAll cat fields).run r).state = { r with data := Entries.putAll r.data ws } := by
  induction fields generalizing r ws with
  | nil =>
      cases h
      exact ⟨rfl, rfl⟩
  | cons e rest ih =>
      cases h with
      | @cons field v w hw _ ws hws =>
          obtain ⟨hfirst, hstate⟩ := run_store_of_wrapped hw
          obtain ⟨hresult, hfinal⟩ := @ih { r with data := r.data.put field w } ws hws
          rw [storeAll, Act.result_bind, Act.state_bind, hfirst, hstate]
          exact ⟨hresult, hfinal⟩

/-! ### How the update ends -/

/-- What was stored and how it was judged decide how a write ends. -/
theorem Written.of_judged {r s : Record} {stored : Outcome Record Unit} {shown : Except Failure String}
    {answered : Except Failure Bool} (h : Written cat r stored shown s answered)
    (hstored : stored.result = .ok ()) {verdict : Verdict}
    (hjudged : judgement cat stored.state = .ok verdict) :
    (verdict.valid = true → answered = .ok true ∧ s = (stored.state.withVerdict verdict).asValid) ∧
    (verdict.valid = false → r.header.mode = .strict →
      answered = shown.map (fun _ => false) ∧ s = r.withVerdict verdict) ∧
    (verdict.valid = false → r.header.mode ≠ .strict →
      answered = .ok false ∧ s = (stored.state.withVerdict verdict).asTainted) := by
  cases h with
  | stopped failure hfails =>
      rw [hstored] at hfails
      cases hfails
  | unjudged failure _ hfails =>
      rw [hjudged] at hfails
      cases hfails
  | kept verdict' _ hjudged' hvalid =>
      rw [hjudged] at hjudged'
      obtain rfl := Except.ok.inj hjudged'
      simp [hvalid]
  | undone verdict' _ hjudged' hvalid hmode =>
      rw [hjudged] at hjudged'
      obtain rfl := Except.ok.inj hjudged'
      simp [hvalid, hmode]
  | tainted verdict' _ hjudged' hvalid hmode =>
      rw [hjudged] at hjudged'
      obtain rfl := Except.ok.inj hjudged'
      simp [hvalid, hmode]

section Empty

variable {setup : Setup} {es candidate ws : Entries Value} {empty verdict : Verdict} {r₀ : Record}

/-- An empty record wraps as the record does that is made of data. -/
theorem wraps_of_judged (hr₀ : cat.Judged t mode setup [] empty r₀) :
    Wraps r₀.header t mode setup.registry :=
  ⟨by rw [hr₀.type_eq]; rfl, hr₀.mode_eq, hr₀.registry_eq⟩

theorem data_of_judged_nil (hr₀ : cat.Judged t mode setup [] empty r₀) : r₀.data = [] := by
  rw [hr₀.data_eq]
  exact ite_self []

/-- What is stored is judged as the candidate is. -/
theorem valid_judgement_eq (hr₀ : cat.Judged t mode setup [] empty r₀)
    (hcopies : copyEntries ws = copyEntries candidate) :
    (judgement cat { r₀ with data := ws }).toOption.map Verdict.valid =
      (cat.validateAs t setup.validator mode candidate).answer.toOption.map Verdict.valid := by
  have halike : remadeEntries ws = remadeEntries candidate := by
    rw [← remadeEntries_copyEntries, hcopies, remadeEntries_copyEntries]
  have htype : r₀.header.type.id = t := (wraps_of_judged hr₀).type_eq
  unfold judgement
  rw [htype, hr₀.validator_eq, hr₀.mode_eq, ← Catalog.validateAs_remadeEntries _ ws, halike,
    Catalog.validateAs_remadeEntries]

/-- Storing entries in an empty record leaves these entries, wrapped. -/
theorem state_storeAll_of_empty (hr₀ : cat.Judged t mode setup [] empty r₀)
    (hdistinct : Entries.Distinct es) (hws : WrapsTo cat r₀.header es ws) :
    ((storeAll cat es).run r₀).result = .ok () ∧
      ((storeAll cat es).run r₀).state = { r₀ with data := ws } := by
  obtain ⟨hresult, hstate⟩ := run_storeAll_of_wrapsTo hws
  have hnew : ∀ e ∈ ws, Entries.has e.1 ([] : Entries Value) = false := fun _ _ => rfl
  rw [data_of_judged_nil hr₀, Entries.putAll_of_distinct
    (hdistinct.of_keys_eq hws.keys_eq.symm) hnew, List.nil_append] at hstate
  exact ⟨hresult, hstate⟩

/-- How the update of an empty record ends with data for which a candidate can be prepared and
judged. -/
theorem run_update_of_empty (hr₀ : cat.Judged t mode setup [] empty r₀)
    (hdistinct : Entries.Distinct es) (hkeys : ∀ e ∈ es, e.1.IsText)
    (hprepare : (prepare cat mode setup.registry t es).answer = .ok candidate)
    (hverdict : (cat.validateAs t setup.validator mode candidate).answer = .ok verdict) :
    let outcome := (update cat es).run r₀
    outcome.result = .ok verdict.valid ∧
      ∃ ws, WrapsTo cat r₀.header es ws ∧ copyEntries ws = copyEntries candidate ∧
        (verdict.valid = true → outcome.state.data = ws ∧
          outcome.state.header.valid = true ∧ outcome.state.header.tainted = false) ∧
        (verdict.valid = false → mode = .strict → outcome.state.data = []) ∧
        (verdict.valid = false → mode ≠ .strict → outcome.state.data = ws ∧
          outcome.state.header.valid = false ∧ outcome.state.header.tainted = true) := by
  intro outcome
  obtain ⟨ws, hws, hcopies⟩ := (wraps_of_judged hr₀).exists_wrapsTo hprepare
  obtain ⟨hstored, hstate⟩ := state_storeAll_of_empty hr₀ hdistinct hws
  have hagree := valid_judgement_eq hr₀ hcopies
  rw [hverdict] at hagree
  cases hjudged : judgement cat { r₀ with data := ws } with
  | error failure =>
      rw [hjudged] at hagree
      cases hagree
  | ok reached =>
      rw [hjudged] at hagree
      have hsame : reached.valid = verdict.valid := Option.some.inj hagree
      have htexts : ∀ k ∈ es.keys, k.IsText := List.forall_mem_map.mpr hkeys
      obtain ⟨words, hwords⟩ := Catalog.exists_shownKeysSorted htexts
      have hwritten := written_update cat es r₀
      rw [hwords] at hwritten
      rw [← hstate] at hjudged
      obtain ⟨hkept, hundone, htainted⟩ := hwritten.of_judged hstored hjudged
      rw [hr₀.mode_eq] at hundone htainted
      rw [hsame, hstate] at hkept htainted
      rw [hsame] at hundone
      refine ⟨?_, ws, hws, hcopies, ?_, ?_, ?_⟩
      · cases hvalid : verdict.valid with
        | true => exact (hkept hvalid).1
        | false =>
            by_cases hmode : mode = .strict
            · exact (hundone hvalid hmode).1
            · exact (htainted hvalid hmode).1
      · intro hvalid
        rw [show outcome.state = _ from (hkept hvalid).2]
        exact ⟨rfl, rfl, rfl⟩
      · intro hvalid hmode
        rw [show outcome.state = _ from (hundone hvalid hmode).2]
        show r₀.data = []
        exact data_of_judged_nil hr₀
      · intro hvalid hmode
        rw [show outcome.state = _ from (htainted hvalid hmode).2]
        exact ⟨rfl, rfl, rfl⟩

/-- An update of an empty record that is accepted stores what a candidate would be, and the candidate
would be accepted. -/
theorem admits_of_update (hr₀ : cat.Judged t mode setup [] empty r₀)
    (hdistinct : Entries.Distinct es) (h : ((update cat es).run r₀).result = .ok true) :
    ∃ candidate, (prepare cat mode setup.registry t es).answer = .ok candidate ∧
      cat.Admits t setup.validator mode candidate := by
  have hwritten := written_update cat es r₀
  rw [h] at hwritten
  obtain ⟨hstored, reached, hjudged, hvalid, _⟩ := hwritten.ended
  obtain ⟨ws, hws, _⟩ := state_storeAll_of_ok hstored
  obtain ⟨_, hstate⟩ := state_storeAll_of_empty hr₀ hdistinct hws
  obtain ⟨candidate, hprepare, hcopies⟩ := (wraps_of_judged hr₀).exists_prepare hws
  refine ⟨candidate, hprepare, ?_⟩
  have hagree := valid_judgement_eq hr₀ hcopies
  rw [← hstate, hjudged] at hagree
  cases hverdict : (cat.validateAs t setup.validator mode candidate).answer with
  | error failure =>
      rw [hverdict] at hagree
      cases hagree
  | ok verdict =>
      rw [hverdict] at hagree
      have hsame : reached.valid = verdict.valid := Option.some.inj hagree
      exact ⟨verdict, hverdict, hsame ▸ hvalid⟩

end Empty

/-! ### Empty records -/

/-- A descriptor that can be read can be written. -/
theorem isWritable_of_descriptor {declared : Value} {d : Descriptor}
    (h : declared.descriptor = .ok d) : declared.isWritable = true := by
  cases declared with
  | atom mark a =>
      cases a with
      | int i => cases h
      | _ => rfl
  | _ => cases h

/-- A record is made of a mapping exactly where its values can be copied, and a candidate prepared and
judged. -/
theorem answer_make_eq_ok {data : Value} {es : Entries Value} (hdata : data.entries? = some es)
    {validator : Option Validator} {registry : Option RegistryId} {sink : Sink}
    {out : Verdict × Record} :
    (make cat t data mode validator registry sink).answer = .ok out ↔
      copyable es = .ok () ∧ ∃ candidate,
        (prepare cat mode (cat.setupFor t validator registry sink).registry t es).answer =
          .ok candidate ∧
        (cat.judge t mode (cat.setupFor t validator registry sink) candidate).answer = .ok out := by
  rw [Catalog.answer_make hdata]
  exact Catalog.answer_construct_eq_ok

/-- A record that is made of nothing is judged as nothing. -/
theorem judged_of_make_empty {validator : Option Validator} {registry : Option RegistryId}
    {sink : Sink} {empty : Verdict} {r₀ : Record}
    (h : (make cat t (.dict none []) mode validator registry sink).answer = .ok (empty, r₀)) :
    cat.Judged t mode (cat.setupFor t validator registry sink) [] empty r₀ := by
  obtain ⟨_, nothing, hnothing, hjudge⟩ := (answer_make_eq_ok rfl).mp h
  obtain rfl : [] = nothing := Except.ok.inj hnothing
  exact Catalog.judged_of_judge hjudge

/-- Where there are fields, the verdict on a new record is that of its validator. -/
theorem verdict_of_judge (hschema : cat.schemaOf t ≠ []) {setup : Setup} {candidate : Entries Value}
    {verdict : Verdict} {r : Record}
    (h : (cat.judge t mode setup candidate).answer = .ok (verdict, r)) :
    (cat.validateAs t setup.validator mode candidate).answer = .ok verdict := by
  rw [Catalog.answer_judge hschema] at h
  obtain ⟨reached, hreached, hout⟩ := Act.map_eq_ok.mp h
  rw [hreached, (Prod.mk.inj hout).1]

/-- An empty record can be made, valid or not, where all descriptors can be written. -/
theorem exists_make_empty (hfields : ∀ f ∈ cat.schemaOf t, f.1.IsText)
    (hdeclared : ∀ f ∈ cat.schemaOf t, f.2.isWritable = true) (validator : Option Validator)
    (registry : Option RegistryId) (sink : Sink) :
    ∃ out, (make cat t (.dict none []) mode validator registry sink).answer = .ok out := by
  obtain ⟨out, hout⟩ := @Catalog.exists_judge cat t hfields hdeclared mode
    (cat.setupFor t validator registry sink) [] (by simp)
  exact ⟨out, (answer_make_eq_ok rfl).mpr ⟨rfl, [], rfl, hout⟩⟩

/-- It can be made where any data is admitted, since then all descriptors can be read, or none is. -/
theorem exists_make_empty_of_admits (hfields : ∀ f ∈ cat.schemaOf t, f.1.IsText)
    {validator : Option Validator} {registry : Option RegistryId} {sink : Sink}
    {candidate : Entries Value}
    (h : cat.Admits t (cat.setupFor t validator registry sink).validator mode candidate) :
    ∃ out, (make cat t (.dict none []) mode validator registry sink).answer = .ok out := by
  rcases (cat.admits_iff _ _ _ _).mp h with hdisabled | ⟨_, horder, _⟩
  · obtain ⟨built, hbuilt⟩ := @run_judge_of_disabled cat t mode _ hdisabled []
    exact ⟨_, (answer_make_eq_ok rfl).mpr ⟨rfl, [], rfl, congrArg Outcome.result hbuilt⟩⟩
  · refine exists_make_empty hfields (fun f hf => ?_) validator registry sink
    obtain ⟨d, hd, _⟩ := horder f hf
    exact isWritable_of_descriptor hd

/-- Records with data of one copy are equal, if they have one schema name and hold nothing that breaks
off. -/
theorem equal_of_copies {r s : Record} (hname : r.header.type.schemaName = s.header.type.schemaName)
    (hcopies : copyEntries r.data = copyEntries s.data) (hdistinct : Entries.Distinct r.data)
    (hwhole : ThroughoutEntries Value.IsClear r.data) : r.equal s = true := by
  have halike : remadeEntries r.data = remadeEntries s.data := by
    rw [← remadeEntries_copyEntries r.data, hcopies, remadeEntries_copyEntries]
  have hequal := equalEntries_of_alike true s.data r.data hwhole
    (exists_find?_of_alike hdistinct halike)
  simp [equal, toValue, Value.equal, Value.equalAs, hname, length_eq_of_alike halike, hequal]

/-- Where both records were made, the update answers whether the data was accepted, and leaves what the
other record holds, or what a refused write leaves. -/
theorem update_ends_as_made {data : Value} {es : Entries Value} (hschema : cat.schemaOf t ≠ [])
    (hdata : data.entries? = some es) (hdistinct : Entries.Distinct es)
    (hkeys : ∀ e ∈ es, e.1.IsText) {validator : Option Validator} {registry : Option RegistryId}
    {sink : Sink} {verdict empty : Verdict} {r r₀ : Record}
    (hmake : (make cat t data mode validator registry sink).answer = .ok (verdict, r))
    (hempty : (make cat t (.dict none []) mode validator registry sink).answer = .ok (empty, r₀)) :
    let outcome := (update cat es).run r₀
    let s := outcome.state
    outcome.result = .ok verdict.valid ∧ r.header.valid = verdict.valid ∧ r.header.tainted = false ∧
      (verdict.valid = true → copyEntries s.data = copyEntries r.data ∧ s.keys = r.keys ∧
        s.toPlain = r.toPlain ∧ (ThroughoutEntries Value.IsClear es → r.equal s = true) ∧
        s.header.valid = true ∧ s.header.tainted = false) ∧
      (verdict.valid = false → r.data = [] ∧ (mode = .strict → s.data = []) ∧
        (mode = .loose → WrapsTo cat r₀.header es s.data ∧ s.header.valid = false ∧
          s.header.tainted = true)) := by
  intro outcome s
  obtain ⟨_, candidate, hprepare, hjudge⟩ := (answer_make_eq_ok hdata).mp hmake
  have hr := Catalog.judged_of_judge hjudge
  have hr₀ := judged_of_make_empty hempty
  obtain ⟨hresult, ws, hws, hcopies, hkept, hundone, htainted⟩ :=
    run_update_of_empty hr₀ hdistinct hkeys hprepare (verdict_of_judge hschema hjudge)
  refine ⟨hresult, hr.valid_eq, hr.tainted_eq, ?_, ?_⟩
  · intro hvalid
    obtain ⟨hstored, hflags⟩ := hkept hvalid
    have hmade : r.data = candidate := by rw [hr.data_eq, if_pos hvalid]
    have hcopy : copyEntries s.data = copyEntries r.data := by rw [hmade, ← hcopies, hstored]
    refine ⟨hcopy, ?_, ?_, ?_, hflags⟩
    · rw [keys, keys, ← keys_copyEntries, hcopy, keys_copyEntries]
    · rw [toPlain, toPlain, ← plainEntries_copyEntries, hcopy, plainEntries_copyEntries]
    · intro hwhole
      have htype : s.header.type = r₀.header.type := by
        rw [← (called cat (.update es) r₀).role_eq.1, (Call.perform_write rfl r₀).1]
      refine equal_of_copies (by rw [htype, hr.type_eq, hr₀.type_eq]) hcopy.symm ?_ ?_
      · rw [hmade]
        exact hdistinct.of_keys_eq (keys_of_answer_prepare hprepare).symm
      · rw [hmade]
        exact throughout_prepare cat.keeps_clear es hwhole hprepare
  · intro hinvalid
    refine ⟨by rw [hr.data_eq, hinvalid, if_neg (by simp)], hundone hinvalid, fun hmode => ?_⟩
    obtain ⟨hstored, hflags⟩ := htainted hinvalid (by simp [hmode])
    exact ⟨hstored ▸ hws, hflags⟩

/-- A record is made of data exactly where the data can be copied, and an empty record can be made and
updated with it; if the data was rejected, the update is refused. The two have the same data then, but for
what was copied, and with it the same keys, records and plain form; or the one is empty, and of the other
is left what a refused write leaves. An empty record can always be made, valid or not, where descriptors
are texts. -/
theorem make_agrees_with_update {data : Value} {es : Entries Value}
    (hschema : cat.schemaOf t ≠ []) (hfields : ∀ f ∈ cat.schemaOf t, f.1.IsText)
    (hdata : data.entries? = some es) (hdistinct : Entries.Distinct es)
    (hkeys : ∀ e ∈ es, e.1.IsText) (mode : Mode) (validator : Option Validator)
    (registry : Option RegistryId) (sink : Sink) :
    let making := fun data => (make cat t data mode validator registry sink).answer
    ((∀ f ∈ cat.schemaOf t, f.2.isWritable = true) → ∃ out, making (.dict none []) = .ok out) ∧
    ((∃ verdict r, making data = .ok (verdict, r) ∧ verdict.valid = true) ↔
      copyable es = .ok () ∧ ∃ empty r₀, making (.dict none []) = .ok (empty, r₀) ∧
        ((update cat es).run r₀).result = .ok true) ∧
    ∀ verdict r empty r₀, making data = .ok (verdict, r) → making (.dict none []) = .ok (empty, r₀) →
      let outcome := (update cat es).run r₀
      let s := outcome.state
      outcome.result = .ok verdict.valid ∧ r.header.valid = verdict.valid ∧
        r.header.tainted = false ∧
        (verdict.valid = true → copyEntries s.data = copyEntries r.data ∧ s.keys = r.keys ∧
          s.toPlain = r.toPlain ∧ (ThroughoutEntries Value.IsClear es → r.equal s = true) ∧
          s.header.valid = true ∧ s.header.tainted = false) ∧
        (verdict.valid = false → r.data = [] ∧ (mode = .strict → s.data = []) ∧
          (mode = .loose → WrapsTo cat r₀.header es s.data ∧ s.header.valid = false ∧
            s.header.tainted = true)) := by
  intro making
  refine ⟨?_, ⟨?_, ?_⟩, ?_⟩
  · intro hdeclared
    exact exists_make_empty hfields hdeclared validator registry sink
  · intro haccepted
    obtain ⟨verdict, r, hmake, hvalid⟩ := haccepted
    obtain ⟨hcopyable, candidate, hprepare, hjudge⟩ := (answer_make_eq_ok hdata).mp hmake
    have hadmits := (Catalog.judged_of_judge hjudge).admits hschema hvalid
    obtain ⟨⟨empty, r₀⟩, hempty⟩ := exists_make_empty_of_admits hfields hadmits
    have hverdict := verdict_of_judge hschema hjudge
    have hupdate := (run_update_of_empty (judged_of_make_empty hempty) hdistinct hkeys hprepare
      hverdict).1
    exact ⟨hcopyable, empty, r₀, hempty, hvalid ▸ hupdate⟩
  · intro hupdated
    obtain ⟨hcopyable, empty, r₀, hempty, hupdate⟩ := hupdated
    obtain ⟨candidate, hprepare, hadmits⟩ :=
      admits_of_update (judged_of_make_empty hempty) hdistinct hupdate
    obtain ⟨verdict, r, hjudge, hvalid⟩ := (cat.judge_valid_iff t mode _ candidate).mpr (.inr hadmits)
    exact ⟨verdict, r, (answer_make_eq_ok hdata).mpr ⟨hcopyable, candidate, hprepare, hjudge⟩, hvalid⟩
  · intro verdict r empty r₀ hmake hempty
    exact update_ends_as_made hschema hdata hdistinct hkeys hmake hempty

/-! ### Boxes and counters -/

/-- A count, and a note of which a record is built. -/
def boxEntries : Entries Value :=
  [(.str "count", .int 1), (.str "note", .dict none [(.str "text", .str "N")])]

/-- An empty box is rejected, and becomes the box that is made of a count and a note when it is updated
with them. -/
theorem make_agrees_with_update_of_box : ∃ verdict r empty r₀,
    (make boxes 2 (.dict none []) .strict none none .none).answer = .ok (empty, r₀) ∧
      empty.valid = false ∧
      (make boxes 2 (.dict none boxEntries) .strict none none .none).answer = .ok (verdict, r) ∧
      verdict.valid = true ∧ ((r.data.find? (.str "note")).bind Value.header?).isSome ∧
      let outcome := (update boxes boxEntries).run r₀
      outcome.result = .ok true ∧ copyEntries outcome.state.data = copyEntries r.data ∧
        r.equal outcome.state = true := by
  obtain ⟨⟨verdict, r⟩, hmake, hmade⟩ := @Act.exists_of_passes (Verdict × Record)
    (fun out => out.1.valid && ((out.2.data.find? (.str "note")).bind Value.header?).isSome)
    (make boxes 2 (.dict none boxEntries) .strict none none .none).answer (by decide +kernel)
  obtain ⟨⟨empty, r₀⟩, hempty, hrejected⟩ := @Act.exists_of_passes (Verdict × Record)
    (fun out => !out.1.valid)
    (make boxes 2 (.dict none []) .strict none none .none).answer (by decide +kernel)
  simp only [Bool.and_eq_true, Bool.not_eq_true'] at hmade hrejected
  have hfields : boxes.schemaOf 2 =
      [(.str "count", .str "int"), (.str "note", .str "Note?")] := rfl
  have hwhole : ThroughoutEntries Value.IsClear boxEntries := by
    simp [boxEntries, ThroughoutEntries, Value.Throughout, Value.IsClear, Entries.Distinct]
  obtain ⟨-, -, hends⟩ := @make_agrees_with_update boxes 2 (.dict none boxEntries) boxEntries
    (by simp [hfields]) (by simp [hfields, Key.IsText]) rfl (by simp [boxEntries, Entries.Distinct])
    (by simp [boxEntries, Key.IsText]) .strict none none .none
  obtain ⟨hresult, -, -, haccepted, -⟩ := hends verdict r empty r₀ hmake hempty
  obtain ⟨hcopies, -, -, hequal, -⟩ := haccepted hmade.1
  rw [hmade.1] at hresult
  exact ⟨verdict, r, empty, r₀, hempty, hrejected, hmake, hmade.1, hmade.2, hresult, hcopies,
    hequal hwhole⟩

/-- A list that holds itself, beside a count. -/
def circularEntries : Entries Value :=
  [(.str "count", .int 1), (.str "x", .list (some 0) [.reference 0])]

/-- No counter is made of data that holds itself, and an empty counter can be updated with it. -/
theorem not_make_agrees_with_update :
    ¬ ∀ (cat : Catalog) (t : TypeId) (data : Value) (es : Entries Value) (mode : Mode)
      (validator : Option Validator) (registry : Option RegistryId) (sink : Sink),
      cat.schemaOf t ≠ [] → (∀ f ∈ cat.schemaOf t, f.1.IsText) → data.entries? = some es →
      Entries.Distinct es → (∀ e ∈ es, e.1.IsText) →
        let making := fun data => (make cat t data mode validator registry sink).answer
        ((∃ verdict r, making data = .ok (verdict, r) ∧ verdict.valid = true) ↔
          ∃ empty r₀, making (.dict none []) = .ok (empty, r₀) ∧
            ((update cat es).run r₀).result = .ok true) := by
  intro h
  have hfields : counters.schemaOf 1 = [(.str "count", .str "int")] := rfl
  have hmake : (make counters 1 (.dict none circularEntries) .loose none none .none).answer.isOk =
      false := by decide +kernel
  obtain ⟨⟨empty, r₀⟩, hempty, hupdate⟩ := @Act.exists_of_passes (Verdict × Record)
    (fun out => Act.passes id ((update counters circularEntries).run out.2).result)
    (make counters 1 (.dict none []) .loose none none .none).answer (by decide +kernel)
  obtain ⟨valid, hresult, rfl⟩ := Act.exists_of_passes hupdate
  have hagree := h counters 1 (.dict none circularEntries) circularEntries .loose none none .none
    (by simp [hfields]) (by simp [hfields, Key.IsText]) rfl
    (by simp [circularEntries, Entries.Distinct]) (by simp [circularEntries, Key.IsText])
  obtain ⟨verdict, r, hmade, _⟩ := hagree.mpr ⟨empty, r₀, hempty, hresult⟩
  rw [show (make counters 1 (.dict none circularEntries) .loose none none .none).answer =
    .ok (verdict, r) from hmade] at hmake
  cases hmake

end Record

end TypedRecord
