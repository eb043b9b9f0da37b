import TypedRecord.Proofs.Sorting
import TypedRecord.Proofs.Record.Calls

/-!
# TypedRecord.Proofs.Record.SingleWrites

Writing one field, and writing several fields that are one.

The two writes store the same and judge the same, and take back in different ways: the one puts the
field back, the other all the data. What they say of that differs as well. `run_write_agrees` compares
any two writes of which this much is known, whatever the record was before; that both ways of taking
back come to the same is `undo_store`. So the writes agree, but for the note about taking them back
(`set_agrees_with_update`), and a run may write its single fields either way
(`performAll_asUpdate`).
-/

namespace TypedRecord

namespace Record

variable {cat : Catalog}

/-! ### Writes that store the same -/

/-- What a record that has taken a write back reports of it. -/
def rollbackNotices (r : Record) (message : String) (field : Option Key) : List Notice :=
  ((noteRollback message field).run r).notices

/-- Taking back what was written, and saying so in words that may not be there. -/
theorem run_takeBack (back : Entries Value → Entries Value) (words : Except Failure String)
    (message : String → String) (field : Option Key) (r : Record) :
    Act.run (do
        modify fun r => { r with data := back r.data }
        let shown ← Act.ofExcept words
        noteRollback (message shown) field
        pure false) r =
      (⟨{ r with data := back r.data },
        match words with
        | .ok shown => rollbackNotices { r with data := back r.data } (message shown) field
        | .error _ => [],
        words.map fun _ => false⟩ : Outcome Record Bool) := by
  rw [Act.run_bind_ok (a := ⟨⟩) rfl, Act.run_modify]
  cases words with
  | error failure => rfl
  | ok shown =>
      rw [Act.run_bind_ok (a := shown) rfl, Act.run_ofExcept,
        Act.run_bind_ok (result_noteRollback _ _ _), state_noteRollback]
      simp [rollbackNotices, Except.map]

/-- Judging a record is no reason to change its data. -/
theorem data_revalidate (cat : Catalog) (r : Record) :
    ((revalidate cat).run r).state.data = r.data := by
  obtain ⟨herror, hok⟩ := run_revalidate cat r
  cases hjudged : judgement cat r with
  | error failure => rw [(herror failure hjudged).1]
  | ok verdict =>
      rw [(hok verdict hjudged).1]
      cases verdict.valid <;> rfl

/-- Of two writes that store the same, take back to the same, and can put what they took back into words
if either can, the record, the answer or failure, and the report of storing and judging are the same.
Where one of them adds a note, so does the other. -/
theorem run_write_agrees {storing : Act Record Unit}
    {back back' : Entries Value → Entries Value → Entries Value} {shown shown' : Except Failure String}
    {r : Record}
    (hback : (storing.run r).result = .ok () →
      back' r.data (storing.run r).state.data = back r.data (storing.run r).state.data)
    (hshown : shown'.map (fun _ => ()) = shown.map fun _ => ()) (message message' : String → String)
    (field field' : Option Key) :
    let judged := (storing >>= fun _ => revalidate cat).run r
    let first := (write cat storing back shown message field).run r
    let second := (write cat storing back' shown' message' field').run r
    second.state = first.state ∧ second.result = first.result ∧
      (first.notices = judged.notices ∧ second.notices = judged.notices ∨
        first.result = .ok false ∧ ∃ words words', shown = .ok words ∧ shown' = .ok words' ∧
          first.notices = judged.notices ++ first.state.rollbackNotices (message words) field ∧
          second.notices = judged.notices ++ first.state.rollbackNotices (message' words') field') := by
  intro judged first second
  have hfirst : first = (write cat storing back shown message field).run r := rfl
  have hsecond : second = (write cat storing back' shown' message' field').run r := rfl
  have hjudged : judged = (storing >>= fun _ => revalidate cat).run r := rfl
  unfold write at hfirst hsecond
  rw [Act.run_get_bind] at hfirst hsecond
  cases hstored : (storing.run r).result with
  | error failure =>
      rw [Act.run_bind_error hstored] at hfirst hsecond hjudged
      rw [hfirst, hsecond, hjudged]
      exact ⟨rfl, rfl, .inl ⟨rfl, rfl⟩⟩
  | ok _ =>
      rw [Act.run_bind_ok hstored] at hfirst hsecond hjudged
      have hsame := hback hstored
      rw [← data_revalidate cat (storing.run r).state] at hsame
      cases hverdict : ((revalidate cat).run (storing.run r).state).result with
      | error failure =>
          rw [Act.run_bind_error hverdict] at hfirst hsecond
          rw [hfirst, hsecond, hjudged]
          exact ⟨rfl, rfl, .inl ⟨rfl, rfl⟩⟩
      | ok valid =>
          rw [Act.run_bind_ok hverdict] at hfirst hsecond
          cases valid with
          | true =>
              rw [hfirst, hsecond, hjudged]
              simp
          | false =>
              simp only [Bool.false_eq_true, if_false, Act.run_get_bind] at hfirst hsecond
              by_cases hmode :
                  ((revalidate cat).run (storing.run r).state).state.header.mode = .strict
              · rw [if_pos hmode, run_takeBack] at hfirst hsecond
                rw [hsame] at hsecond
                rw [hfirst, hsecond, hjudged]
                cases shown with
                | error failure => cases shown' with
                  | error failure' =>
                      obtain rfl := Except.error.inj hshown
                      simp
                  | ok words' => cases hshown
                | ok words => cases shown' with
                  | error failure' => cases hshown
                  | ok words' =>
                      refine ⟨rfl, rfl, .inr ⟨rfl, words, words', rfl, rfl, ?_, ?_⟩⟩
                      · exact (List.append_assoc _ _ _).symm
                      · exact (List.append_assoc _ _ _).symm
              · rw [if_neg hmode] at hfirst hsecond
                have hnotices : (Act.run (do taint; pure false : Act Record Bool)
                    ((revalidate cat).run (storing.run r).state).state).notices = [] := rfl
                rw [hfirst, hsecond, hjudged, hnotices, List.append_nil]
                exact ⟨rfl, rfl, .inl ⟨rfl, rfl⟩⟩

/-! ### One field -/

/-- An update of one field stores what writing the field stores. -/
theorem storeAll_single (cat : Catalog) (field : Key) (v : Value) :
    storeAll cat [(field, v)] = store cat field v := by
  funext r
  show (store cat field v >>= fun _ => pure ()).run r = _
  rw [Act.run_bind_pure]
  have hunit : ((store cat field v).run r).result.map (fun _ => ()) =
      ((store cat field v).run r).result := by
    cases ((store cat field v).run r).result <;> rfl
  rw [hunit]
  rfl

theorem shownField_eq_ok {field : Key} {words : String} (h : shownField field = .ok words) :
    words = field.plainText := by
  unfold shownField at h
  split at h
  · exact (Except.ok.inj h).symm
  · cases h

/-- One field can be shown as a list of fields exactly if it can be shown. -/
theorem shownKeysSorted_single (field : Key) :
    Catalog.shownKeysSorted [field] = (shownField field).map fun _ => "[" ++ field.shown ++ "]" := by
  unfold Catalog.shownKeysSorted shownField
  rw [Key.sorted?, Sorting.sort?_single]
  cases hwritable : field.isWritable with
  | true => simp [hwritable, Except.map, commaSeparated]
  | false => simp [hwritable, Except.map]

/-- Writing a field as an update of that field alone. -/
theorem update_single_eq_write (cat : Catalog) (field : Key) (v : Value) :
    update cat [(field, v)] = write cat (store cat field v) (fun before _ => before)
      ((shownField field).map fun _ => "[" ++ field.shown ++ "]")
      (fun shown => "Rolled back update of " ++ shown) none := by
  rw [update_eq_write, storeAll_single, Entries.keys, List.map_singleton, shownKeysSorted_single]

/-- The two writes of one field, compared as any two writes that store the same. -/
theorem run_set_agrees (cat : Catalog) (field : Key) (v : Value) (r : Record) :
    let judged := (store cat field v >>= fun _ => revalidate cat).run r
    let written := (set cat field v).run r
    let updated := (update cat [(field, v)]).run r
    updated.state = written.state ∧ updated.result = written.result ∧
      (written.notices = judged.notices ∧ updated.notices = judged.notices ∨
        written.result = .ok false ∧ ∃ words words', shownField field = .ok words ∧
          ((shownField field).map fun _ => "[" ++ field.shown ++ "]") = .ok words' ∧
          written.notices = judged.notices ++ written.state.rollbackNotices
            ("Rolled back write to '" ++ words ++ "'") (some field) ∧
          updated.notices = judged.notices ++ written.state.rollbackNotices
            ("Rolled back update of " ++ words') none) := by
  have hshown : ((shownField field).map fun _ => "[" ++ field.shown ++ "]").map (fun _ => ()) =
      (shownField field).map fun _ => () := by
    cases shownField field <;> rfl
  rw [set_eq_write, update_single_eq_write]
  exact run_write_agrees (fun hstored => (undo_store hstored).symm) hshown
    (fun shown => "Rolled back write to '" ++ shown ++ "'")
    (fun shown => "Rolled back update of " ++ shown) (some field) none

/-- Writing a field and updating that field alone leave one record and give one answer, or fail alike,
from any record. They report the same of storing and judging the value, and where a strict record takes
the write back, both add a note; only of the note do the words and the field differ. -/
theorem set_agrees_with_update (cat : Catalog) (field : Key) (v : Value) (r : Record) :
    let judged := (store cat field v >>= fun _ => revalidate cat).run r
    let written := (set cat field v).run r
    let updated := (update cat [(field, v)]).run r
    updated.state = written.state ∧ updated.result = written.result ∧
      (written.notices = judged.notices ∧ updated.notices = judged.notices ∨
        written.result = .ok false ∧
          written.notices = judged.notices ++ written.state.rollbackNotices
            ("Rolled back write to '" ++ field.plainText ++ "'") (some field) ∧
          updated.notices = judged.notices ++ written.state.rollbackNotices
            ("Rolled back update of [" ++ field.shown ++ "]") none) := by
  intro judged written updated
  obtain ⟨hstate, hresult, hnotices⟩ := run_set_agrees cat field v r
  refine ⟨hstate, hresult, hnotices.imp_right ?_⟩
  intro hnoted
  obtain ⟨hrefused, words, words', hwords, hwords', hnote, hnote'⟩ := hnoted
  rw [hwords] at hwords'
  obtain rfl := shownField_eq_ok hwords
  obtain rfl := Except.ok.inj hwords'
  exact ⟨hrefused, hnote, hnote'⟩

/-! ### Runs -/

/-- A call that writes one field, as an update of that field alone. -/
def Call.asUpdate : Call → Call
  | .set field v => .update [(field, v)]
  | call => call

theorem tracks_asUpdate (cat : Catalog) (call : Call) :
    Act.Tracks Eq (call.perform cat) (call.asUpdate.perform cat) := by
  cases call with
  | set field v =>
      have hset : Act.Tracks Eq (set cat field v) (update cat [(field, v)]) := by
        intro r s hrs
        subst hrs
        obtain ⟨hstate, hresult, _⟩ := run_set_agrees cat field v r
        exact ⟨hstate.symm, hresult.symm⟩
      exact hset.bind fun valid => .of_pure (Answer.flag valid)
  | _ =>
      intro r s hrs
      subst hrs
      exact ⟨rfl, rfl⟩

/-- In a run every field may be written either way: the answers are the same, and so is the record in
the end. -/
theorem performAll_asUpdate (calls : List (Catalog × Call)) (r : Record) :
    let updates := calls.map fun c => (c.1, c.2.asUpdate)
    ((performAll updates).run r).state = ((performAll calls).run r).state ∧
      ((performAll updates).run r).result = ((performAll calls).run r).result := by
  intro updates
  have htracks : Act.Tracks Eq (performAll calls) (performAll updates) := by
    unfold performAll
    rw [List.map_map]
    exact .of_inTurn fun c _ => tracks_asUpdate c.1 c.2
  obtain ⟨hstate, hresult⟩ := htracks r r rfl
  exact ⟨hstate.symm, hresult.symm⟩

end Record

end TypedRecord
