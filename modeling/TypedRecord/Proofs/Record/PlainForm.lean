import TypedRecord.Proofs.Record.Unchecked

/-!
# TypedRecord.Proofs.Record.PlainForm

What a record holds, seen through its plain form.

A record is flattened to a plain mapping, the records in it too. Nothing that is given to a record is
lost, added or reordered on the way into it: the plain form of what wrapping leaves is that of the value
(`plain_settled`). So an accepted record is flattened to its data (`toPlain_eq_of_make`), a write that
validates enters the plain forms of its values in the plain form of the record (`toPlain_of_validates`),
and a read leaves the plain form alone, whether or not it builds something (`Read.toPlain_eq`).

Two things are asked for. Tuples turn into lists where they are looked into, so there must be none; that
is kept by every call that writes none (`throughout_after`). And nothing but record types must be found
in the registries that are asked, which are more than the one that is given (`not_plain_wrap_in_depot`).
-/

namespace TypedRecord

/-- Wrapping makes no tuples. -/
theorem Catalog.keeps_noTuple (cat : Catalog) : cat.Keeps Value.IsNoTuple where
  atom := fun _ _ => trivial
  list := fun _ _ => trivial
  mapping := fun _ _ _ => trivial
  record := fun _ _ _ _ => trivial

namespace Record

/-! ### What calls keep -/

section Keeps

variable {cat : Catalog} {P : Value → Prop} {r : Record}

/-- What holds throughout the data of a record and the values that a call writes holds after storing. -/
theorem throughout_stores (hP : cat.Keeps P) {request : Call}
    (hvalues : ∀ e ∈ request.writes, e.2.Throughout P) (hr : ThroughoutEntries P r.data) :
    ThroughoutEntries P ((request.stores cat).run r).state.data := by
  cases request with
  | set field v | assign field v => exact throughout_store hP hr field (hvalues _ (.head _))
  | update fields => exact throughout_storeAll hP hvalues hr
  | _ => exact hr

/-- It holds after the call, however that ends. -/
theorem throughout_perform (hP : cat.Keeps P) {request : Call} (hfields : request.onFields = true)
    (hvalues : ∀ e ∈ request.writes, e.2.Throughout P) (hr : ThroughoutEntries P r.data) :
    ThroughoutEntries P ((request.perform cat).run r).state.data := by
  cases hwrite : request.write? cat with
  | some act =>
    obtain ⟨_, hwritten⟩ := Call.written hwrite r
    rw [(Call.perform_write hwrite r).1]
    rcases hwritten.data_eq with hdata | hdata
    · rw [hdata]
      exact throughout_stores hP hvalues hr
    · rw [hdata]
      exact hr
  | none =>
    have hread := Call.isRead_of_write?_eq_none hwrite hfields
    exact (Call.read_of_isRead hread r).throughout hP hr

/-- It holds after a run, whatever becomes of the schemas meanwhile. -/
theorem throughout_after {calls : List (Catalog × Call)} (hP : ∀ c ∈ calls, c.1.Keeps P)
    (hfields : ∀ c ∈ calls, c.2.onFields = true)
    (hvalues : ∀ c ∈ calls, ∀ e ∈ c.2.writes, e.2.Throughout P)
    (hr : ThroughoutEntries P r.data) : ThroughoutEntries P (r.after calls).data :=
  @after_of_step (fun s => ThroughoutEntries P s.data) calls
    (fun c hc _ hs => throughout_perform (hP c hc) (hfields c hc) (hvalues c hc) hs) r hr

theorem registry_after (r : Record) (calls : List (Catalog × Call)) :
    (r.after calls).header.registry = r.header.registry := by
  refine @after_of_step (fun s => s.header.registry = r.header.registry) calls ?_ r rfl
  intro c _ s hs
  exact (called c.1 c.2 s).registry_eq.trans hs

end Keeps

/-! ### Plain forms -/

section Plain

variable {cat : Catalog} {r s : Record}

/-- An accepted record is flattened to what its data is flattened to. -/
theorem toPlain_eq_of_make {t : TypeId} {data : Value} {mode : Mode} {validator : Option Validator}
    {registry : Option RegistryId} {sink : Sink} {verdict : Verdict}
    (htypes : cat.FindsTypesOnly (registry.or (cat.registryOf t))) {entries : Entries Value}
    (hentries : data.entries? = some entries) (hdata : data.IsTupleFree)
    (h : (make cat t data mode validator registry sink).answer = .ok (verdict, r))
    (hvalid : verdict.valid = true) : r.toPlain = plainEntries entries := by
  rw [Catalog.answer_make hentries] at h
  obtain ⟨candidate, hcandidate, hjudged⟩ := Catalog.judged_of_construct h
  rw [toPlain, hjudged.data_eq, if_pos hvalid]
  exact plain_prepare entries ((Value.throughout_of_entries hentries).mp hdata).2 htypes hcandidate

/-- A write that validates has entered its values, as they are flattened. -/
theorem toPlain_of_validates (htypes : cat.FindsTypesOnly r.header.registry) {request : Call}
    (hvalues : ∀ e ∈ request.writes, e.2.IsTupleFree) (h : request.validates cat r = true) :
    ((request.perform cat).run r).state.toPlain =
      Entries.putAll r.toPlain (plainEntries request.writes) := by
  obtain ⟨act, hwrite, hanswer⟩ := Call.exists_of_validates h
  obtain ⟨_, hwritten⟩ := Call.written hwrite r
  rw [hanswer] at hwritten
  obtain ⟨hstored, verdict, -, -, hstate⟩ := hwritten.ended
  obtain ⟨ws, hws, hdata⟩ := state_stores_of_ok hstored
  -- The verdict that came after storing takes nothing back, since it is valid.
  have hfinal : (act.run r).state.data = Entries.putAll r.data ws := by
    rw [hstate, if_pos rfl, hdata]
    rfl
  rw [(Call.perform_write hwrite r).1, toPlain, hfinal, plainEntries_putAll,
    hws.plainEntries_eq htypes hvalues]
  rfl

/-- Where a read builds something it is flattened to what was there. -/
theorem Read.toPlain_eq (h : Read cat r s) (htypes : cat.FindsTypesOnly r.header.registry)
    (hr : ThroughoutEntries Value.IsNoTuple r.data) : s.toPlain = r.toPlain := by
  cases h with
  | same => rfl
  | upgraded field v w hfind hwrapped =>
    -- What was built enters where its mapping was, under the key that was there.
    obtain ⟨k, hmem, -⟩ := Entries.exists_mem_of_find? hfind
    have hv : v.IsTupleFree := throughoutEntries_iff.mp hr _ hmem
    have hplain : w.plain = v.plain := plain_incoming htypes hv hwrapped
    have hfound : Entries.find? field r.toPlain = some w.plain := by
      rw [toPlain, find?_plainEntries, hfind, hplain]
      rfl
    calc plainEntries (r.data.put field w)
        = Entries.put field w.plain r.toPlain := by
          simp only [toPlain, plainEntries_eq_map]
          exact Entries.map_put Value.plain field w r.data
      _ = r.toPlain := Entries.put_of_find? hfound

/-- Where nothing but record types is found, the plain form of a value without tuples is kept by
wrapping it; an accepted record has the plain form of its data; a write that validates enters the plain
forms of its values in that of the record, and changes nothing else of it; and no read changes the plain
form of a record that such data and such values have gone into, whatever became of the schemas between. -/
theorem plain_form_is_kept {registry : Option RegistryId} (htypes : cat.FindsTypesOnly registry) :
    (∀ mode d v w, v.IsTupleFree → (wrap cat mode registry d v).answer = .ok w →
      w.plain = v.plain) ∧
    (∀ t (data : Value) entries mode validator given sink verdict r, given.or (cat.registryOf t) = registry →
      data.entries? = some entries → data.IsTupleFree →
      (make cat t data mode validator given sink).answer = .ok (verdict, r) →
        (verdict.valid = true → r.toPlain = plainEntries entries) ∧
          r.header.registry = registry ∧ ∀ e ∈ r.data, e.2.IsTupleFree) ∧
    (∀ (r : Record) (request : Call), r.header.registry = registry →
      (∀ e ∈ request.writes, e.2.IsTupleFree) → request.validates cat r = true →
        let s := ((request.perform cat).run r).state
        s.toPlain = Entries.putAll r.toPlain (plainEntries request.writes) ∧
          ∀ field, s.toPlain.find? field =
            ((Entries.find? field request.writes.reverse).map Value.plain).or
              (r.toPlain.find? field)) ∧
    ∀ (r : Record) (calls : List (Catalog × Call)), r.header.registry = registry →
      (∀ e ∈ r.data, e.2.IsTupleFree) → (∀ c ∈ calls, c.2.onFields = true) →
      (∀ c ∈ calls, ∀ e ∈ c.2.writes, e.2.IsTupleFree) →
        let s := r.after calls
        s.header.registry = registry ∧ (∀ e ∈ s.data, e.2.IsTupleFree) ∧
          ∀ request : Call, request.isRead = true →
            ((request.perform cat).run s).state.toPlain = s.toPlain := by
  refine ⟨?_, ?_, ?_, ?_⟩
  · intro mode d v w hv h
    exact plain_wrap htypes hv h
  · rintro t data entries mode validator given sink verdict r rfl hentries hdata h
    refine ⟨toPlain_eq_of_make htypes hentries hdata h, ?_, ?_⟩
    · rw [Catalog.answer_make hentries] at h
      obtain ⟨candidate, -, hjudged⟩ := Catalog.judged_of_construct h
      exact hjudged.registry_eq
    · exact throughoutEntries_iff.mp (throughout_make cat.keeps_noTuple hdata h)
  · rintro r request rfl hvalues h
    have hplain := toPlain_of_validates htypes hvalues h
    refine ⟨hplain, fun field => ?_⟩
    rw [hplain, toPlain, ← plainEntries_putAll, find?_plainEntries, Entries.find?_putAll,
      find?_plainEntries, Option.map_or]
  · rintro r calls rfl hdata hfields hvalues s
    have hs : ThroughoutEntries Value.IsNoTuple s.data :=
      throughout_after (fun c _ => c.1.keeps_noTuple) hfields hvalues (throughoutEntries_iff.mpr hdata)
    have hregistry : s.header.registry = r.header.registry := registry_after r calls
    refine ⟨hregistry, throughoutEntries_iff.mp hs, fun request hread => ?_⟩
    exact (Call.read_of_isRead hread s).toPlain_eq (hregistry ▸ htypes) hs

end Plain

/-! ### Notes about topics -/

/-- A note about a topic, which has a note in its reserved field. -/
def noteEntries : Entries Value :=
  [(.str "about", .dict none (Catalog.topicEntries (.str "x"))), (.str "text", .str "N")]

/-- Another topic for a note, as a plain mapping. -/
def otherTopic : Call := .set (.str "about") (.dict none (Catalog.topicEntries (.str "y")))

/-- The topic is a record both times, and is seen in the plain form as the mapping that was given. -/
theorem plain_form_is_kept_of_note : ∃ verdict r,
    (make Catalog.topicsAndNotes 2 (.dict none noteEntries) .strict none none .none).answer =
        .ok (verdict, r) ∧
      (r.data.find? (.str "about")).map Value.kind = some .record ∧ r.toPlain = noteEntries ∧
      let s := ((otherTopic.perform Catalog.topicsAndNotes).run r).state
      (s.data.find? (.str "about")).map Value.kind = some .record ∧
        s.toPlain = [(.str "about", .dict none (Catalog.topicEntries (.str "y"))),
          (.str "text", .str "N")] ∧
        (((Call.getPresent (.str "about")).perform Catalog.topicsAndNotes).run s).state.toPlain =
          s.toPlain := by
  obtain ⟨⟨verdict, r⟩, hmake, hrun⟩ := @Act.exists_of_passes (Verdict × Record)
    (fun out => out.1.valid && otherTopic.validates Catalog.topicsAndNotes out.2 &&
      decide ((out.2.data.find? (.str "about")).map Value.kind = some .record) &&
      decide ((((otherTopic.perform Catalog.topicsAndNotes).run out.2).state.data.find?
        (.str "about")).map Value.kind = some .record))
    (make Catalog.topicsAndNotes 2 (.dict none noteEntries) .strict none none .none).answer
    (by decide +kernel)
  simp only [Bool.and_eq_true, decide_eq_true_eq] at hrun
  obtain ⟨⟨⟨hvalid, hvalidates⟩, hbefore⟩, hafter⟩ := hrun
  obtain ⟨-, hmade, hwritten, hread⟩ :=
    plain_form_is_kept Catalog.topicsAndNotes_selfContained.findsTypesOnly
  have hregistry : Catalog.topicsAndNotes.registryOf 2 = some 0 := by
    simp [Catalog.registryOf, Catalog.typeAt, Catalog.topicsAndNotes]
  have hdata : (Value.dict none noteEntries).IsTupleFree := by
    simp [noteEntries, Catalog.topicEntries, Value.Throughout, ThroughoutEntries, Value.IsNoTuple]
  have hvalues : ∀ e ∈ otherTopic.writes, e.2.IsTupleFree := by
    simp [otherTopic, Call.writes, Catalog.topicEntries, Value.Throughout, ThroughoutEntries,
      Value.IsNoTuple]
  obtain ⟨hplain, howner, hfree⟩ :=
    hmade 2 _ noteEntries .strict none none .none verdict r hregistry rfl hdata hmake
  have hfirst : r.toPlain = noteEntries := hplain hvalid
  have hsecond := (hwritten r otherTopic howner hvalues hvalidates).1
  rw [hfirst] at hsecond
  have hreads := hread r [(Catalog.topicsAndNotes, otherTopic)] howner hfree (by simp [otherTopic,
    Call.onFields]) (by simpa using hvalues)
  exact ⟨verdict, r, hmake, hbefore, hfirst, hafter, hsecond, hreads.2.2 _ rfl⟩

/-- It is not enough that the registry that is given holds record types only: the stamp on the label of a
crate is lost, since labels look for their stamps elsewhere. -/
theorem not_plain_wrap_in_depot :
    ¬ ∀ (cat : Catalog) (registry : RegistryId) (mode : Mode) (d : Descriptor) (v w : Value),
      (∀ name factory, (cat.registryAt registry).find? name = some factory →
        ∃ t, factory = .type t) →
      v.IsTupleFree → (wrap cat mode (some registry) d v).answer = .ok w → w.plain = v.plain := by
  intro h
  obtain ⟨w, hw, hstamp⟩ := @Act.exists_of_passes Value
    (fun w => decide ((w.plain.entries?.bind stampOf).map Value.kind = some .record))
    (wrap depot .loose (some 0) (.named "Crate" false) (.dict none crateEntries)).answer
    (by decide +kernel)
  have hplain := h depot 0 .loose (.named "Crate" false) (.dict none crateEntries) w
    finds_types_in_depot
    (by simp [crateEntries, Value.Throughout, ThroughoutEntries, Value.IsNoTuple]) hw
  rw [hplain] at hstamp
  exact absurd hstamp (by decide +kernel)

end Record

end TypedRecord
