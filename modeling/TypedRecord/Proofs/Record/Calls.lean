import TypedRecord.Record.Call
import TypedRecord.Proofs.Record.Reads
import TypedRecord.Proofs.Record.SideData
import TypedRecord.Proofs.Record.Writes

/-!
# TypedRecord.Proofs.Record.Calls

What one call does to a record.

`Called` sorts the calls into writes, reads of fields, and operations on side data, with what each of
them can make of a record. A property of runs needs one case for each.
-/

namespace TypedRecord

namespace Record

/-- Every write ends as its storing lets it. -/
theorem Call.written {cat : Catalog} {call : Call} {act : Act Record Bool}
    (hwrite : call.write? cat = some act) (r : Record) : ∃ shown,
      Written cat r ((call.stores cat).run r) shown (act.run r).state (act.run r).result := by
  cases call with
  | set field v | assign field v =>
      obtain rfl := Option.some.inj hwrite
      exact ⟨_, written_set cat field v r⟩
  | update fields =>
      obtain rfl := Option.some.inj hwrite
      exact ⟨_, written_update cat fields r⟩
  | _ => cases hwrite

@[simp] theorem Call.header_stores (cat : Catalog) (call : Call) (r : Record) :
    ((call.stores cat).run r).state.header = r.header := by
  cases call with
  | set field v | assign field v => exact header_store cat field v r
  | update fields => exact header_storeAll cat fields r
  | _ => rfl

/-- A call that writes does to the record what the write does, and fails where the write fails. -/
theorem Call.perform_write {cat : Catalog} {call : Call} {act : Act Record Bool}
    (hwrite : call.write? cat = some act) (r : Record) :
    ((call.perform cat).run r).state = (act.run r).state ∧
      ((∃ answer, ((call.perform cat).run r).result = .ok answer) ↔
        ∃ valid, (act.run r).result = .ok valid) := by
  cases call with
  | set field v | assign field v | update fields =>
      obtain rfl := Option.some.inj hwrite
      simp only [Call.perform, Act.run_bind_pure, true_and]
      cases (Act.run _ r).result <;> simp [Except.map]
  | _ => cases hwrite

/-- What a call that writes answers, by what the write answers. -/
def Call.answerOf : Call → Bool → Answer
  | .assign _ _, _ => .nothing
  | _, valid => .flag valid

theorem Call.result_of_write {cat : Catalog} {call : Call} {act : Act Record Bool}
    (hwrite : call.write? cat = some act) (r : Record) :
    ((call.perform cat).run r).result = (act.run r).result.map call.answerOf := by
  cases call with
  | set field v | assign field v | update fields =>
      obtain rfl := Option.some.inj hwrite
      simp only [Call.perform, Act.run_bind_pure]
      rfl
  | _ => cases hwrite

/-- A call that validates is a write that answers so. -/
theorem Call.exists_of_validates {cat : Catalog} {call : Call} {r : Record}
    (h : call.validates cat r = true) :
    ∃ act, call.write? cat = some act ∧ (act.run r).result = .ok true := by
  unfold Call.validates at h
  split at h
  · next act hwrite =>
      refine ⟨act, hwrite, ?_⟩
      split at h
      · next valid hanswer => rw [hanswer, h]
      · cases h
  · cases h

/-- A call on the fields of a record, not on its side data. -/
def Call.onFields : Call → Bool
  | .set _ _ | .assign _ _ | .update _ | .get _ _ | .getPresent _ => true
  | _ => false

/-- A call that reads a field. -/
def Call.isRead : Call → Bool
  | .get _ _ | .getPresent _ => true
  | _ => false

/-- A call that reads does what `Read` lists. -/
theorem Call.read_of_isRead {cat : Catalog} {request : Call} (hread : request.isRead = true)
    (r : Record) : Read cat r ((request.perform cat).run r).state := by
  cases request with
  | get field default =>
      simp only [Call.perform, Act.run_bind_pure]
      exact read_get cat field default r
  | getPresent field =>
      simp only [Call.perform, Act.run_bind_pure]
      exact read_getPresent cat field r
  | _ => cases hread

/-- A call on the fields of a record writes, or it reads. -/
theorem Call.isRead_of_write?_eq_none {cat : Catalog} {request : Call}
    (hwrite : request.write? cat = none) (hfields : request.onFields = true) :
    request.isRead = true := by
  cases request with
  | get _ _ | getPresent _ => rfl
  | set _ _ | assign _ _ | update _ => cases hwrite
  | _ => cases hfields

/-- A call that is not on the fields of a record is on its side data. -/
theorem Call.beside_of_onFields {cat : Catalog} {call : Call} (h : call.onFields = false)
    (r : Record) : r.Beside cat ((call.perform cat).run r).state := by
  cases call with
  | sidePut owner key v =>
      simp only [Call.perform, Act.run_bind_pure]
      exact SideData.maintains_put owner key v r (.refl cat r)
  | sideFind owner key default =>
      simp only [Call.perform, Act.run_bind_pure]
      exact SideData.maintains_find owner key default r (.refl cat r)
  | sideHas owner =>
      simp only [Call.perform, Act.run_bind_pure]
      exact SideData.maintains_has owner r (.refl cat r)
  | sideAll owner =>
      simp only [Call.perform, Act.run_bind_pure]
      exact SideData.maintains_all owner r (.refl cat r)
  | sideClear owner =>
      simp only [Call.perform, Act.run_bind_pure]
      exact SideData.maintains_clear owner r (.refl cat r)
  | sideOwners => exact .refl cat r
  | _ => cases h

/-- What a call can make of a record: what a write makes of it, what a read makes of it, or a record
that differs in side data. -/
inductive Called (cat : Catalog) (call : Call) (r : Record) : Record → Prop
  | written (act : Act Record Bool) (s : Record) (shown : Except Failure String)
      (answered : Except Failure Bool) (hwrite : call.write? cat = some act)
      (hanswered : (act.run r).result = answered)
      (hwritten : Written cat r ((call.stores cat).run r) shown s answered) : Called cat call r s
  | read (s : Record) (hwrite : call.write? cat = none) (hread : Read cat r s) : Called cat call r s
  | beside (s : Record) (hwrite : call.write? cat = none) (hbeside : r.Beside cat s) :
      Called cat call r s

theorem called_of_write? {cat : Catalog} {call : Call} {act : Act Record Bool}
    (hwrite : call.write? cat = some act) (r : Record) :
    Called cat call r ((call.perform cat).run r).state := by
  obtain ⟨shown, hwritten⟩ := Call.written hwrite r
  rw [(Call.perform_write hwrite r).1]
  exact .written act _ shown _ hwrite rfl hwritten

/-- Every call does one of these. -/
theorem called (cat : Catalog) (call : Call) (r : Record) :
    Called cat call r ((call.perform cat).run r).state := by
  cases call with
  | set field v => exact called_of_write? rfl r
  | assign field v => exact called_of_write? rfl r
  | update fields => exact called_of_write? rfl r
  | get field default =>
      simp only [Call.perform, Act.run_bind_pure]
      exact .read _ rfl (read_get cat field default r)
  | getPresent field =>
      simp only [Call.perform, Act.run_bind_pure]
      exact .read _ rfl (read_getPresent cat field r)
  | _ => exact .beside _ rfl (Call.beside_of_onFields rfl r)

/-- No call changes of what type a record is, how strict it is, and what judges it. -/
theorem Called.role_eq {cat : Catalog} {call : Call} {r s : Record} (h : Called cat call r s) :
    s.header.type = r.header.type ∧ s.header.mode = r.header.mode ∧
      s.header.validator = r.header.validator := by
  cases h with
  | written _ _ _ _ _ _ hwritten =>
      cases hwritten with
      | undone _ _ _ _ _ => exact ⟨rfl, rfl, rfl⟩
      | _ => simp [withVerdict, asValid, asTainted]
  | read _ _ hread => simp [hread.header_eq]
  | beside _ _ hbeside => simp [hbeside.header_eq]

/-- Nor does a call change what resolves the references of a record. -/
theorem Called.registry_eq {cat : Catalog} {call : Call} {r s : Record} (h : Called cat call r s) :
    s.header.registry = r.header.registry := by
  cases h with
  | written _ _ _ _ _ _ hwritten =>
      cases hwritten with
      | undone _ _ _ _ _ => rfl
      | _ => simp [withVerdict, asValid, asTainted]
  | read _ _ hread => rw [hread.header_eq]
  | beside _ _ hbeside => rw [hbeside.header_eq]

/-- What every call of a run keeps, the run keeps. -/
theorem after_of_step {P : Record → Prop} {calls : List (Catalog × Call)}
    (hstep : ∀ c ∈ calls, ∀ r, P r → P ((c.2.perform c.1).run r).state) {r : Record} (hr : P r) :
    P (r.after calls) := by
  induction calls generalizing r with
  | nil => exact hr
  | cons c calls ih =>
      obtain ⟨hhead, htail⟩ := List.forall_mem_cons.mp hstep
      exact ih htail (hhead r hr)

/-! ### Counters -/

/-- A type with one field. -/
def counters : Catalog where
  types := [.root,
    { className := "Counter", schemaName := "Counter", baseSchema := [(.str "count", .str "int")] }]

/-- Makes a strict counter of some data. -/
def makeCounter (data : Entries Value) : Except Failure (Verdict × Record) :=
  (make counters 1 (.dict none data) .strict none none .none).answer

end Record

end TypedRecord
