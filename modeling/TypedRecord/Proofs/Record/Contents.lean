import TypedRecord.Proofs.Nested
import TypedRecord.Proofs.Record.FailedWrites

/-!
# TypedRecord.Proofs.Record.Contents

The records that a record holds.

What is in a record has come into it by making it or by writing to it (`Reached`). A record inside was
either handed in ready-made, with a value that came in, or it was built of a mapping, and then it is
sound (`everyRecord_of_reached`). Nothing is asked of the first: a reference takes every record that is
bound to the schema of that name, also one that is not valid (`holds_unsound_note`).
-/

namespace TypedRecord

/-- What a value is as a record. -/
def Value.header? : Value → Option Header
  | .record _ header _ => some header
  | _ => none

namespace Record

variable {cat : Catalog} {handed : Value → Prop}

/-- The records that come of making one of values of some kind, and of writing such values to it.
Writes that are refused and writes that fail belong to the way there. -/
inductive Reached (cat : Catalog) (handed : Value → Prop) : Record → Prop
  | made {t : TypeId} {data : Value} {mode : Mode} {validator : Option Validator}
      {registry : Option RegistryId} {sink : Sink} {verdict : Verdict} {r : Record}
      (hdata : handed data)
      (h : (make cat t data mode validator registry sink).answer = .ok (verdict, r)) :
      Reached cat handed r
  | set {r : Record} (hr : Reached cat handed r) (field : Key) {v : Value} (hv : handed v) :
      Reached cat handed ((set cat field v).run r).state
  | update {r : Record} (hr : Reached cat handed r) {fields : Entries Value}
      (hfields : ∀ e ∈ fields, handed e.2) : Reached cat handed ((update cat fields).run r).state

/-- A write leaves the data that was stored, or the data from before. -/
theorem Written.data_eq {r s : Record} {stored : Outcome Record Unit} {shown : Except Failure String}
    {answered : Except Failure Bool} (h : Written cat r stored shown s answered) :
    s.data = stored.state.data ∨ s.data = r.data := by
  cases h with
  | undone _ _ _ _ _ => exact .inr rfl
  | _ => exact .inl rfl

/-! ### What comes in -/

/-- What comes into a field is settled at its descriptor; what comes into any other stays. -/
theorem incoming?_cases {header : Header} {field : Key} {v : Value} {replacement : Option Value}
    (h : (incoming? cat header field v).answer = .ok replacement) :
    (cat.wrappingDescriptor? header.type.id field = .ok none ∧ replacement = none) ∨
      ∃ d, cat.wrappingDescriptor? header.type.id field = .ok (some d) ∧
        settled cat header.mode header.registry false d v = .ok (replacement.getD v) := by
  unfold incoming? at h
  split at h
  next d hd =>
    refine .inr ⟨d, hd, ?_⟩
    rw [settled, h]
    rfl
  next hd =>
    cases h
    exact .inl ⟨hd, rfl⟩
  next => cases h

section Keeps

variable {P : Value → Prop}

/-- What comes into a field keeps what holds throughout the value. -/
theorem throughout_incoming (hP : cat.Keeps P) {header : Header} {field : Key} {v : Value}
    {replacement : Option Value} (hv : v.Throughout P)
    (h : (incoming? cat header field v).answer = .ok replacement) :
    (replacement.getD v).Throughout P := by
  rcases incoming?_cases h with ⟨-, rfl⟩ | ⟨d, -, hsettled⟩
  · exact hv
  · exact throughout_settled hP v hv hsettled

/-- Storing a value keeps what holds throughout the data and that value. -/
theorem throughout_store (hP : cat.Keeps P) {r : Record} (hr : ThroughoutEntries P r.data)
    (field : Key) {v : Value} (hv : v.Throughout P) :
    ThroughoutEntries P ((store cat field v).run r).state.data := by
  rw [(run_store cat field v r).1]
  cases hincoming : (incoming? cat r.header field v).answer with
  | error failure => exact hr
  | ok replacement => exact .put (throughout_incoming hP hv hincoming) hr

/-- So does storing several, also where it stops in the middle. -/
theorem throughout_storeAll (hP : cat.Keeps P) {fields : List (Key × Value)}
    (hfields : ∀ e ∈ fields, e.2.Throughout P) {r : Record} (hr : ThroughoutEntries P r.data) :
    ThroughoutEntries P ((storeAll cat fields).run r).state.data := by
  induction fields generalizing r with
  | nil => exact hr
  | cons e rest ih =>
      obtain ⟨field, v⟩ := e
      obtain ⟨hv, hrest⟩ := List.forall_mem_cons.mp hfields
      have hfirst := throughout_store hP hr field hv
      rw [storeAll, Act.state_bind]
      cases ((store cat field v).run r).result with
      | error failure => exact hfirst
      | ok _ => exact ih hrest hfirst

/-- A read keeps what holds throughout the data, since it finds what it wraps there. -/
theorem Read.throughout (hP : cat.Keeps P) {r s : Record} (h : Read cat r s)
    (hr : ThroughoutEntries P r.data) : ThroughoutEntries P s.data := by
  cases h with
  | same => exact hr
  | upgraded field v w hfind hwrapped =>
      obtain ⟨k, hmem, -⟩ := Entries.exists_mem_of_find? hfind
      have hv : v.Throughout P := throughoutEntries_iff.mp hr _ hmem
      exact .put (throughout_incoming hP hv hwrapped) hr

/-- The data that a record is made of is a mapping that came in, or nothing. -/
theorem throughout_initialEntries {data : Value} {entries : Entries Value}
    (hdata : data.Throughout P) (h : initialEntries data = .ok entries) :
    ThroughoutEntries P entries := by
  unfold initialEntries at h
  split at h
  · cases hentries : data.entries? with
    | none => rw [hentries] at h; cases h
    | some es =>
        rw [hentries] at h
        cases h
        exact ((Value.throughout_of_entries hentries).mp hdata).2
  · cases h
    trivial

/-- A new record keeps what holds throughout its data. -/
theorem throughout_make (hP : cat.Keeps P) {t : TypeId} {data : Value} {mode : Mode}
    {validator : Option Validator} {registry : Option RegistryId} {sink : Sink} {verdict : Verdict}
    {r : Record} (hdata : data.Throughout P)
    (h : (make cat t data mode validator registry sink).answer = .ok (verdict, r)) :
    ThroughoutEntries P r.data := by
  simp only [make, Act.answer_bind, Act.answer_ofExcept] at h
  obtain ⟨entries, hentries, h⟩ := Act.bind_eq_ok.mp h
  obtain ⟨candidate, hcandidate, hjudged⟩ := Catalog.judged_of_construct h
  rw [hjudged.data_eq]
  cases verdict.valid with
  | false => trivial
  | true =>
      exact throughout_prepare hP entries (throughout_initialEntries hdata hentries) hcandidate

end Keeps

theorem Reached.mono {handed' : Value → Prop} (hmono : ∀ v, handed v → handed' v) {r : Record}
    (h : Reached cat handed r) : Reached cat handed' r := by
  induction h with
  | made hdata h => exact .made (hmono _ hdata) h
  | set _ field hv ih => exact ih.set field (hmono _ hv)
  | update _ hfields ih => exact ih.update fun e he => hmono _ (hfields e he)

end Record

end TypedRecord
