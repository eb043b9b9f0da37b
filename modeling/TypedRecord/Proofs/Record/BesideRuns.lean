import TypedRecord.Proofs.SideField
import TypedRecord.Proofs.Record.Calls
import TypedRecord.Proofs.Record.Likeness

/-!
# TypedRecord.Proofs.Record.BesideRuns

The reserved field has no say in what becomes of a record.

Records of one type that differ in one field only are a likeness, if that field is the reserved one
(`likeness_differAt`). Calls that leave the field alone are tracked by it (`tracks_perform_avoiding`), so a
run of them goes the same way with both. Together with what is known of data (`Catalog.SideEnds`) this is
the main statement, `side_field_unseen`.

The reserved field does have a say where it cannot be copied or wrapped: then nothing is made, and nothing
is judged (`not_side_field_unseen`).
-/

namespace TypedRecord

namespace Record

/-- Records of a type that are the same but for a field. -/
structure DifferAt (t : TypeId) (key : Key) (r s : Record) : Prop where
  type_eq : r.header.type.id = t
  header_eq : s.header = r.header
  without_eq : Entries.without key s.data = Entries.without key r.data

variable {cat : Catalog} {t : TypeId} {key : Key} {r s : Record}

/-- Whether a call leaves a field alone: it reads and writes other fields, and no side data. -/
def Call.avoids (key : Key) : Call → Bool
  | .set field _ | .assign field _ | .get field _ | .getPresent field => !key.same field
  | .update fields => fields.all fun e => !key.same e.1
  | _ => false

theorem differAt_of_beside (h : r.Beside cat s) :
    DifferAt r.header.type.id (cat.sideKey r.header.type.id) r s :=
  ⟨rfl, h.header_eq, h.visible_eq⟩

theorem DifferAt.beside (h : DifferAt t key r s) (hkey : cat.sideKey t = key) : r.Beside cat s := by
  obtain ⟨rfl, hheader, hwithout⟩ := h
  subst hkey
  exact ⟨hheader, hwithout⟩

/-- Data that is the same but for the reserved field is judged alike, so that records which differ there
are alike to all that writes go by. -/
theorem likeness_differAt (hkey : cat.sideKey t = key) : Likeness cat (DifferAt t key) where
  role_eq h := by simp [h.header_eq]
  judgement_eq h := by
    rw [judgement, judgement, h.header_eq, ← Catalog.validateAs_visible, (h.beside hkey).visible_eq,
      Catalog.validateAs_visible]
  withVerdict h verdict := ⟨h.type_eq, by simp [Record.withVerdict, h.header_eq], h.without_eq⟩
  asValid h := ⟨h.type_eq, by simp [Record.asValid, h.header_eq], h.without_eq⟩
  asTainted h := ⟨h.type_eq, by simp [Record.asTainted, h.header_eq], h.without_eq⟩

namespace DifferAt

variable {field : Key}

/-- Every other field holds the same. -/
theorem find?_eq (h : DifferAt t key r s) (hne : key.same field = false) :
    s.data.find? field = r.data.find? field := by
  rw [← Entries.find?_without_of_ne hne, h.without_eq, Entries.find?_without_of_ne hne]

theorem put (h : DifferAt t key r s) (hne : key.same field = false) (v : Value) :
    DifferAt t key { r with data := r.data.put field v } { s with data := s.data.put field v } := by
  rw [Key.same_comm] at hne
  exact ⟨h.type_eq, h.header_eq, by
    rw [Entries.without_put_of_ne hne, Entries.without_put_of_ne hne, h.without_eq]⟩

theorem erase (h : DifferAt t key r s) (hne : key.same field = false) :
    DifferAt t key { r with data := r.data.erase field } { s with data := s.data.erase field } := by
  rw [Key.same_comm] at hne
  exact ⟨h.type_eq, h.header_eq, by
    rw [Entries.without_erase_of_ne hne, Entries.without_erase_of_ne hne, h.without_eq]⟩

/-- Taking back a write to another field needs nothing of the field in which the records differ. -/
theorem undo {r' s' : Record} (h : DifferAt t key r s) (h' : DifferAt t key r' s')
    (hne : key.same field = false) :
    DifferAt t key { r' with data := Record.undo (r.data.find? field) field r'.data }
      { s' with data := Record.undo (s.data.find? field) field s'.data } := by
  rw [h.find?_eq hne]
  cases r.data.find? field with
  | none => exact h'.erase hne
  | some v => exact h'.put hne v

end DifferAt

/-! ### Calls on other fields -/

section Tracks

variable (hkey : cat.sideKey t = key) {field : Key}
include hkey

theorem tracks_store_avoiding (hne : key.same field = false) (v : Value) :
    Act.Tracks (DifferAt t key) (store cat field v) (store cat field v) := by
  unfold store
  refine .get_bind fun r s hrs => ?_
  rw [(likeness_differAt hkey).incoming?_eq hrs]
  exact .bind (.of_lift rfl) fun replacement => .of_modify fun _ _ h => h.put hne _

theorem tracks_storeAll_avoiding {fields : List (Key × Value)}
    (hne : ∀ e ∈ fields, key.same e.1 = false) :
    Act.Tracks (DifferAt t key) (storeAll cat fields) (storeAll cat fields) := by
  induction fields with
  | nil => exact .of_pure ()
  | cons e rest ih =>
      obtain ⟨hhead, htail⟩ := List.forall_mem_cons.mp hne
      exact .bind (tracks_store_avoiding hkey hhead e.2) fun _ => ih htail

theorem tracks_set_avoiding (hne : key.same field = false) (v : Value) :
    Act.Tracks (DifferAt t key) (set cat field v) (set cat field v) := by
  rw [set_eq_write]
  exact (likeness_differAt hkey).write (tracks_store_avoiding hkey hne v)
    (fun hrs hafter => hrs.undo hafter hne) _ _ _

theorem tracks_update_avoiding {fields : Entries Value} (hne : ∀ e ∈ fields, key.same e.1 = false) :
    Act.Tracks (DifferAt t key) (update cat fields) (update cat fields) := by
  rw [update_eq_write]
  -- What is taken back is all the data, also in the field in which the records differ.
  exact (likeness_differAt hkey).write (tracks_storeAll_avoiding hkey hne)
    (fun hrs hafter => ⟨hafter.type_eq, hafter.header_eq, hrs.without_eq⟩) _ _ _

theorem tracks_get_avoiding (hne : key.same field = false) (default : Value) :
    Act.Tracks (DifferAt t key) (get cat field default) (get cat field default) := by
  unfold get
  refine .get_bind fun r s hrs => ?_
  rw [hrs.find?_eq hne]
  cases r.data.find? field with
  | none => exact .of_pure _
  | some v =>
      simp only [(likeness_differAt hkey).incoming?_eq hrs]
      refine .bind (.of_lift rfl) fun replacement => ?_
      cases replacement with
      | none => exact .of_pure _
      | some w => exact .bind (.of_modify fun _ _ h => h.put hne w) fun _ => .of_pure _

theorem tracks_getPresent_avoiding (hne : key.same field = false) :
    Act.Tracks (DifferAt t key) (getPresent cat field) (getPresent cat field) := by
  unfold getPresent
  refine .get_bind fun r s hrs => ?_
  rw [Entries.has, Entries.has, hrs.find?_eq hne]
  split
  · exact tracks_get_avoiding hkey hne .nil
  · exact .of_throw _

theorem tracks_perform_avoiding {call : Call} (havoids : call.avoids key = true) :
    Act.Tracks (DifferAt t key) (call.perform cat) (call.perform cat) := by
  cases call with
  | set field v | assign field v =>
      have hne : key.same field = false := by simpa [Call.avoids] using havoids
      exact .bind (tracks_set_avoiding hkey hne v) fun _ => .of_pure _
  | update fields =>
      have hne : ∀ e ∈ fields, key.same e.1 = false := by simpa [Call.avoids] using havoids
      exact .bind (tracks_update_avoiding hkey hne) fun _ => .of_pure _
  | get field default =>
      have hne : key.same field = false := by simpa [Call.avoids] using havoids
      exact .bind (tracks_get_avoiding hkey hne default) fun _ => .of_pure _
  | getPresent field =>
      have hne : key.same field = false := by simpa [Call.avoids] using havoids
      exact .bind (tracks_getPresent_avoiding hkey hne) fun _ => .of_pure _
  | _ => cases havoids

end Tracks

/-- A run of calls that leave the reserved field alone, whatever happens to schemas on the way. -/
theorem tracks_performAll_avoiding {calls : List (Catalog × Call)}
    (hcalls : ∀ c ∈ calls, c.1.sideKey t = key ∧ c.2.avoids key = true) :
    Act.Tracks (DifferAt t key) (performAll calls) (performAll calls) := by
  refine .of_inTurn fun c hc => ?_
  obtain ⟨hkey, havoids⟩ := hcalls c hc
  exact tracks_perform_avoiding hkey havoids

/-! ### Data and records that differ in the reserved field -/

/-- Data that differs in the reserved field is judged alike, and the records that are made of it differ in
that field at most, provided that the field can be copied and wrapped; if it cannot, nothing is made. It
can where it is plain, with texts for keys and numbers that can be written, and what the schema declares
for it, if anything, can be written as well, as every text can. Records that differ in the reserved field
answer calls on other fields alike and still differ there at most. -/
theorem side_field_unseen {es es' : Entries Value} {data data' : Value}
    (hdata : data.entries? = some es) (hdata' : data'.entries? = some es')
    (hvisible : cat.visible t es' = cat.visible t es) (mode : Mode) :
    (∀ validator registry sink,
      let setup := cat.setupFor t validator registry sink
      let making := fun data => (make cat t data mode validator registry sink).answer
      (cat.SideEnds mode setup.registry t es → cat.SideEnds mode setup.registry t es' →
        (making data).map (fun out => (out.1, out.2.bare cat t)) =
          (making data').map fun out => (out.1, out.2.bare cat t)) ∧
      (¬ cat.SideEnds mode setup.registry t es → ∃ failure, making data = .error failure)) ∧
    (∀ validator exhaustive,
      let registry := (cat.judging t validator).registry.or (cat.registryOf t)
      cat.SideEnds mode registry t es → cat.SideEnds mode registry t es' →
        (cat.validateData t data mode validator exhaustive).answer =
          (cat.validateData t data' mode validator exhaustive).answer) ∧
    (∀ registry : Option RegistryId, (∀ r ∈ registry, cat.SelfContained r) →
      (∀ declared, (cat.schemaOf t).find? (cat.sideKey t) = some declared →
        declared.isWritable = true) →
      (∀ e ∈ es, e.1.same (cat.sideKey t) = true → e.2.IsPlain ∧ e.2.IsReportable) →
        cat.SideEnds mode registry t es) ∧
    ∀ r s : Record, r.header.type.id = t → r.Beside cat s → ∀ calls : List (Catalog × Call),
      (∀ c ∈ calls, c.1.sideKey t = cat.sideKey t ∧ c.2.avoids (cat.sideKey t) = true) →
        ((performAll calls).run s).result = ((performAll calls).run r).result ∧
          ((performAll calls).run r).state.Beside cat ((performAll calls).run s).state := by
  refine ⟨fun validator registry sink => ⟨fun hes hes' => ?_, fun hes => ?_⟩,
    fun validator exhaustive hes hes' => ?_, fun registry hr hdeclared hes => ?_, ?_⟩
  · simp only [Catalog.answer_make hdata, Catalog.answer_make hdata',
      Catalog.answer_construct_bare hes, Catalog.answer_construct_bare hes', hvisible]
  · cases hmade : (make cat t data mode validator registry sink).answer with
    | error failure => exact ⟨failure, hmade⟩
    | ok out =>
        rw [Catalog.answer_make hdata] at hmade
        exact absurd (Catalog.sideEnds_of_construct hmade) hes
  · rw [Catalog.answer_validateData_bare hdata hes, Catalog.answer_validateData_bare hdata' hes',
      hvisible]
  · cases registry with
    | none =>
        refine Catalog.sideEnds_of_no_registry hdeclared fun e he hside => ?_
        exact Value.IsWhole.meets e.2 (Value.IsPlain.isWhole e.2 (hes e he hside).1)
    | some r => exact Catalog.sideEnds_of_reportable (hr r rfl) hdeclared hes
  · rintro r s rfl hbeside calls hcalls
    obtain ⟨hstates, hresults⟩ :=
      tracks_performAll_avoiding hcalls r s (differAt_of_beside hbeside)
    exact ⟨hresults.symm, hstates.beside rfl⟩

/-- Nothing is seen of a topic but its note, and that is in the reserved field. -/
theorem visible_topicEntries (text : Value) :
    Catalog.topicsAndNotes.visible 1 (Catalog.topicEntries text) = [] := by
  rw [Catalog.visible_eq_nil_iff]
  simp [Catalog.topicEntries, Entries.keys, Catalog.sideKey, Catalog.typeAt, Catalog.topicsAndNotes]

/-- A topic whose note is rejected is made as a topic without a note is, but for the note. -/
theorem side_field_unseen_of_topic :
    let making := fun es : Entries Value =>
      (make Catalog.topicsAndNotes 1 (.dict none es) .strict none none .none).answer
    (making (Catalog.topicEntries (.bool true))).map
        (fun out => (out.1, out.2.bare Catalog.topicsAndNotes 1)) =
      (making []).map fun out => (out.1, out.2.bare Catalog.topicsAndNotes 1) := by
  have hvisible : Catalog.topicsAndNotes.visible 1 [] =
      Catalog.topicsAndNotes.visible 1 (Catalog.topicEntries (.bool true)) := by
    rw [visible_topicEntries]
    rfl
  have hdata (es : Entries Value) : (Value.dict none es).entries? = some es := rfl
  obtain ⟨hmake, _, hends, _⟩ := side_field_unseen (hdata _) (hdata []) hvisible .strict
  have hregisters : Catalog.topicsAndNotes.Registers 0 "Topic" 1 :=
    Catalog.topicsAndNotes_selfContained.registers rfl
  have hplain : (Value.dict none (Catalog.topicEntries (.bool true))).IsPlain :=
    Catalog.isPlain_topicEntries (by simp [Value.IsPlain, Value.schema?])
  refine (hmake none none .none).1 (hends _ ?_ ?_ ?_) fun e he => by cases he
  · rw [(hregisters.setupFor_registry .none).1]
    rintro r ⟨⟩
    exact Catalog.topicsAndNotes_selfContained
  · rintro declared ⟨⟩
    rfl
  · intro e he _
    obtain rfl := List.mem_singleton.mp he
    exact ⟨hplain.2.1, ⟨none, _, rfl⟩, rfl, trivial⟩

/-- The reserved field has a say after all: a topic is made of no data, and not of data that differs in
the text of its note, if that is a number too long to be written. -/
theorem not_side_field_unseen :
    Catalog.topicsAndNotes.visible 1 (Catalog.topicEntries Catalog.unwritableNumber) =
        Catalog.topicsAndNotes.visible 1 [] ∧
      (∃ verdict r, (make Catalog.topicsAndNotes 1 (.dict none []) .strict none none .none).answer =
        .ok (verdict, r) ∧ verdict.valid = true) ∧
      ∃ failure, (make Catalog.topicsAndNotes 1
        (.dict none (Catalog.topicEntries Catalog.unwritableNumber)) .strict none none .none).answer =
          .error failure := by
  refine ⟨visible_topicEntries _, ?_, ?_⟩
  · obtain ⟨⟨verdict, r⟩, hmake, hvalid⟩ := @Act.exists_of_passes (Verdict × Record)
      (fun out => out.1.valid)
      (make Catalog.topicsAndNotes 1 (.dict none []) .strict none none .none).answer
      (by decide +kernel)
    exact ⟨verdict, r, hmake, hvalid⟩
  · have hfails : (make Catalog.topicsAndNotes 1
        (.dict none (Catalog.topicEntries Catalog.unwritableNumber)) .strict none none
          .none).answer.isOk = false := by decide +kernel
    cases hmake : (make Catalog.topicsAndNotes 1
        (.dict none (Catalog.topicEntries Catalog.unwritableNumber)) .strict none none
          .none).answer with
    | error failure => exact ⟨failure, rfl⟩
    | ok out =>
        rw [hmake] at hfails
        cases hfails

end Record

end TypedRecord
