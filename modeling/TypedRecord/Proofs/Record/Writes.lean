import TypedRecord.Record
import TypedRecord.Proofs.Admission

/-!
# TypedRecord.Proofs.Record.Writes

What a write does to a record.

Writing one field and writing several differ in how values are stored and in how they are taken back.
`Record.write` is what they share, `set_eq_write` and `update_eq_write` say so, and `written` lists
every way in which a write can end: storing or validating fails, or the record validates, or the write
is taken back, or the record is tainted. The proofs about writes go through this list.
-/

namespace TypedRecord

namespace Record

/-- Writes by storing something, and takes it back if a strict record does not validate then. `back`
makes the data before the write of that data and the data after it. -/
def write (cat : Catalog) (storing : Act Record Unit)
    (back : Entries Value → Entries Value → Entries Value) (shown : Except Failure String)
    (message : String → String) (field : Option Key) : Act Record Bool := do
  let before := (← MonadState.get).data
  storing
  if ← revalidate cat then pure true
  else if (← MonadState.get).header.mode = .strict then
    modify fun r => { r with data := back before r.data }
    let shown ← Act.ofExcept shown
    noteRollback (message shown) field
    pure false
  else
    taint
    pure false

/-- Writing one field takes back that field. -/
theorem set_eq_write (cat : Catalog) (field : Key) (v : Value) :
    set cat field v = write cat (store cat field v)
      (fun before => undo (before.find? field) field) (shownField field)
      (fun shown => "Rolled back write to '" ++ shown ++ "'") (some field) := rfl

/-- Writing several fields takes back everything. -/
theorem update_eq_write (cat : Catalog) (fields : Entries Value) :
    update cat fields = write cat (storeAll cat fields) (fun before _ => before)
      (Catalog.shownKeysSorted fields.keys) (fun shown => "Rolled back update of " ++ shown)
      none := rfl

/-! ### Storing -/

/-- Of a record it matters for wrapping of what type it is, how strict it is, and what resolves its
references. -/
theorem incoming?_congr {cat : Catalog} {header header' : Header}
    (htype : header'.type = header.type) (hmode : header'.mode = header.mode)
    (hregistry : header'.registry = header.registry) (field : Key) (v : Value) :
    incoming? cat header' field v = incoming? cat header field v := by
  unfold incoming?
  rw [htype, hmode, hregistry]

/-- A field holds what was stored in it, wrapped; nothing is stored where wrapping fails. -/
theorem run_store (cat : Catalog) (field : Key) (v : Value) (r : Record) :
    ((store cat field v).run r).state =
        (match (incoming? cat r.header field v).answer with
          | .error _ => r
          | .ok replacement => { r with data := r.data.put field (replacement.getD v) }) ∧
      ((store cat field v).run r).result =
        (incoming? cat r.header field v).answer.map fun _ => () := by
  unfold store
  rw [Act.run_get_bind, Act.state_bind, Act.result_bind]
  simp only [Act.run_lift, Act.result_run_unit]
  cases (incoming? cat r.header field v).answer with
  | error failure => exact ⟨rfl, rfl⟩
  | ok replacement => exact ⟨rfl, rfl⟩

@[simp] theorem header_store (cat : Catalog) (field : Key) (v : Value) (r : Record) :
    ((store cat field v).run r).state.header = r.header := by
  rw [(run_store cat field v r).1]
  cases (incoming? cat r.header field v).answer <;> rfl

/-- Storing one value is taken back exactly: the order of the fields stays, and a new field goes. -/
theorem undo_store {cat : Catalog} {field : Key} {v : Value} {r : Record}
    (h : ((store cat field v).run r).result = .ok ()) :
    undo (r.data.find? field) field ((store cat field v).run r).state.data = r.data := by
  obtain ⟨hstate, hresult⟩ := run_store cat field v r
  rw [hstate]
  rw [hresult] at h
  cases hreplacement : (incoming? cat r.header field v).answer with
  | error failure => rw [hreplacement] at h; cases h
  | ok replacement =>
      cases hfind : r.data.find? field with
      | none => exact Entries.erase_put_of_find? hfind _
      | some w =>
          -- Neither the write nor its undoing moves a field that was there.
          show (r.data.put field _).put field w = r.data
          rw [Entries.put_put_self, Entries.put_of_find? hfind]

/-- Storing changes nothing but data. -/
@[simp] theorem header_storeAll (cat : Catalog) (fields : List (Key × Value)) (r : Record) :
    ((storeAll cat fields).run r).state.header = r.header := by
  induction fields generalizing r with
  | nil => rfl
  | cons e rest ih =>
      obtain ⟨field, v⟩ := e
      unfold storeAll
      rw [Act.state_bind]
      cases ((store cat field v).run r).result with
      | error failure => exact header_store cat field v r
      | ok _ => exact (ih _).trans (header_store cat field v r)

/-! ### How a write ends -/

/-- The verdict on a record as it is. -/
def judgement (cat : Catalog) (r : Record) : Except Failure Verdict :=
  (cat.validateAs r.header.type.id r.header.validator r.header.mode r.data).answer

/-- The record with a verdict kept. -/
def withVerdict (r : Record) (verdict : Verdict) : Record :=
  { r with header := { r.header with lastVerdict := some verdict } }

/-- The record as it counts as valid. -/
def asValid (r : Record) : Record :=
  { r with header := { r.header with tainted := false, valid := true } }

/-- The record as it counts as tainted. -/
def asTainted (r : Record) : Record :=
  { r with header := { r.header with tainted := true, valid := false } }

/-- The ways in which a write to a record can end, given what storing came to and the words for what is
taken back. The indices are the record and the answer afterwards. -/
inductive Written (cat : Catalog) (r : Record) (stored : Outcome Record Unit)
    (shown : Except Failure String) : Record → Except Failure Bool → Prop
  /-- A value could not be wrapped. -/
  | stopped (failure : Failure) (hstored : stored.result = .error failure) :
      Written cat r stored shown stored.state (.error failure)
  /-- The record could not be judged. -/
  | unjudged (failure : Failure) (hstored : stored.result = .ok ())
      (hjudged : judgement cat stored.state = .error failure) :
      Written cat r stored shown stored.state (.error failure)
  | kept (verdict : Verdict) (hstored : stored.result = .ok ())
      (hjudged : judgement cat stored.state = .ok verdict) (hvalid : verdict.valid = true) :
      Written cat r stored shown (stored.state.withVerdict verdict).asValid (.ok true)
  /-- The record is what it was, but for the verdict; the note about that may not be written. -/
  | undone (verdict : Verdict) (hstored : stored.result = .ok ())
      (hjudged : judgement cat stored.state = .ok verdict) (hvalid : verdict.valid = false)
      (hmode : r.header.mode = .strict) :
      Written cat r stored shown (r.withVerdict verdict) (shown.map fun _ => false)
  | tainted (verdict : Verdict) (hstored : stored.result = .ok ())
      (hjudged : judgement cat stored.state = .ok verdict) (hvalid : verdict.valid = false)
      (hmode : r.header.mode ≠ .strict) :
      Written cat r stored shown (stored.state.withVerdict verdict).asTainted (.ok false)

/-- What revalidation leaves and answers is decided by the judgement on the record. -/
theorem run_revalidate (cat : Catalog) (r : Record) :
    (∀ failure, judgement cat r = .error failure →
      ((revalidate cat).run r).state = r ∧ ((revalidate cat).run r).result = .error failure) ∧
    (∀ verdict, judgement cat r = .ok verdict →
      ((revalidate cat).run r).state =
        (if verdict.valid then (r.withVerdict verdict).asValid else r.withVerdict verdict) ∧
      ((revalidate cat).run r).result = .ok verdict.valid) := by
  have hlift : (Act.run (Act.lift (cat.validateAs r.header.type.id r.header.validator
      r.header.mode r.data)) r).result = judgement cat r := rfl
  unfold revalidate
  rw [Act.run_get_bind]
  constructor
  · intro failure hjudged
    rw [hjudged] at hlift
    rw [Act.run_bind_error hlift]
    exact ⟨rfl, rfl⟩
  · intro verdict hjudged
    rw [hjudged] at hlift
    rw [Act.run_bind_ok hlift]
    cases verdict.valid with
    | true => exact ⟨rfl, rfl⟩
    | false => exact ⟨rfl, rfl⟩

/-- Saying that a write was taken back does nothing to the record, wherever it is said. -/
@[simp] theorem state_noteRollback (message : String) (field : Option Key) (r : Record) :
    ((noteRollback message field).run r).state = r := by
  unfold noteRollback
  rw [Act.run_get_bind, Act.state_deliver]

@[simp] theorem result_noteRollback (message : String) (field : Option Key) (r : Record) :
    ((noteRollback message field).run r).result = .ok () := by
  unfold noteRollback
  rw [Act.run_get_bind, Act.result_deliver]

/-- Every write ends in one of these ways, if storing changes nothing but data and what was stored is
taken back exactly. -/
theorem written {cat : Catalog} {storing : Act Record Unit}
    {back : Entries Value → Entries Value → Entries Value} {r : Record}
    (hheader : (storing.run r).state.header = r.header)
    (hback : (storing.run r).result = .ok () → back r.data (storing.run r).state.data = r.data)
    (shown : Except Failure String) (message : String → String) (field : Option Key) :
    Written cat r (storing.run r) shown
      ((write cat storing back shown message field).run r).state
      ((write cat storing back shown message field).run r).result := by
  unfold write
  rw [Act.run_get_bind]
  cases hstored : (storing.run r).result with
  | error failure =>
      rw [Act.run_bind_error hstored]
      exact .stopped failure hstored
  | ok _ =>
      rw [Act.run_bind_ok hstored]
      obtain ⟨herror, hok⟩ := run_revalidate cat (storing.run r).state
      cases hjudged : judgement cat (storing.run r).state with
      | error failure =>
          obtain ⟨hstate, hresult⟩ := herror failure hjudged
          rw [Act.run_bind_error hresult, hstate]
          exact .unjudged failure hstored hjudged
      | ok verdict =>
          obtain ⟨hstate, hresult⟩ := hok verdict hjudged
          rw [Act.run_bind_ok hresult, hstate]
          cases hvalid : verdict.valid with
          | true => exact .kept verdict hstored hjudged hvalid
          | false =>
              simp only [Bool.false_eq_true, if_false, Act.run_get_bind]
              have hmode : ((storing.run r).state.withVerdict verdict).header.mode =
                  r.header.mode := by simp [withVerdict, hheader]
              by_cases hstrict : r.header.mode = .strict
              · rw [hmode, if_pos hstrict]
                have hundone := @Written.undone cat r (storing.run r) shown verdict hstored hjudged
                  hvalid hstrict
                -- Storing left the header alone, so with the data back only the verdict is new.
                have hrestored : r.withVerdict verdict =
                    ⟨((storing.run r).state.withVerdict verdict).header,
                      back r.data (storing.run r).state.data⟩ := by
                  simp [withVerdict, hheader, hback hstored]
                rw [hrestored] at hundone
                cases shown with
                | error failure => exact hundone
                | ok words =>
                    simpa [withVerdict, Act.state_bind, Act.result_bind, Act.ok_bind, Except.map]
                      using hundone
              · rw [hmode, if_neg hstrict]
                exact .tainted verdict hstored hjudged hvalid hstrict

theorem written_set (cat : Catalog) (field : Key) (v : Value) (r : Record) :
    Written cat r ((store cat field v).run r) (shownField field)
      ((set cat field v).run r).state ((set cat field v).run r).result := by
  rw [set_eq_write]
  exact written (header_store cat field v r) undo_store _ _ _

theorem written_update (cat : Catalog) (fields : Entries Value) (r : Record) :
    Written cat r ((storeAll cat fields).run r) (Catalog.shownKeysSorted fields.keys)
      ((update cat fields).run r).state ((update cat fields).run r).result := by
  rw [update_eq_write]
  exact written (header_storeAll cat fields r) (fun _ => rfl) _ _ _

/-- A write that comes to an end has stored something, and the verdict on it decides the rest. -/
theorem Written.ended {cat : Catalog} {r s : Record} {stored : Outcome Record Unit}
    {shown : Except Failure String} {valid : Bool} (h : Written cat r stored shown s (.ok valid)) :
    stored.result = .ok () ∧ ∃ verdict, judgement cat stored.state = .ok verdict ∧
      verdict.valid = valid ∧
        s = if valid then (stored.state.withVerdict verdict).asValid
          else if r.header.mode = .strict then r.withVerdict verdict
          else (stored.state.withVerdict verdict).asTainted := by
  generalize hanswered : (Except.ok valid : Except Failure Bool) = answered at h
  cases h with
  | stopped _ _ => cases hanswered
  | unjudged _ _ _ => cases hanswered
  | kept verdict hstored hjudged hvalid =>
      cases hanswered
      exact ⟨hstored, verdict, hjudged, hvalid, rfl⟩
  | undone verdict hstored hjudged hvalid hmode =>
      cases shown with
      | error failure => cases hanswered
      | ok words =>
          cases hanswered
          exact ⟨hstored, verdict, hjudged, hvalid, by simp [hmode]⟩
  | tainted verdict hstored hjudged hvalid hmode =>
      cases hanswered
      exact ⟨hstored, verdict, hjudged, hvalid, by simp [hmode]⟩

/-- A strict record that refuses a write is what it was, but for the verdict. -/
theorem Written.eq_withVerdict {cat : Catalog} {r s : Record} {stored : Outcome Record Unit}
    {shown : Except Failure String} (h : Written cat r stored shown s (.ok false))
    (hmode : r.header.mode = .strict) : ∃ verdict, s = r.withVerdict verdict := by
  generalize hanswered : (Except.ok false : Except Failure Bool) = answered at h
  cases h with
  | stopped _ _ => cases hanswered
  | unjudged _ _ _ => cases hanswered
  | kept _ _ _ _ => cases hanswered
  | undone verdict _ _ _ _ => exact ⟨verdict, rfl⟩
  | tainted _ _ _ _ hloose => exact absurd hmode hloose

end Record

end TypedRecord
