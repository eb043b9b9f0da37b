import TypedRecord.Proofs.Record.Calls

/-!
# TypedRecord.Proofs.Record.FailedWrites

What is left of a strict record when a write fails.

A write that is refused is taken back; a write that fails may not be. It stores first and judges
afterwards, and where storing stops in the middle or the judgement fails, what was stored by then stays.
The flags are only ever changed by a verdict, so they stay as they were
(`Call.data_changed_iff_of_failed`).
-/

namespace TypedRecord

namespace Record

variable {cat : Catalog} {r : Record}

/-- The first thing that is wrong with a record cannot be reported. -/
def CannotBeJudged (cat : Catalog) (failure : Failure) (r : Record) : Prop :=
  r.header.validator.enabled = true ∧
    (findings (cat.known r.header.validator.registry) r.header.validator.excerpt
      (.dict none (cat.visible r.header.type.id r.data)) (cat.schemaOf r.header.type.id)
      r.header.mode).head? = some (.error failure)

theorem judgement_eq_error_iff {failure : Failure} :
    judgement cat r = .error failure ↔ r.CannotBeJudged cat failure := by
  unfold judgement Catalog.validateAs CannotBeJudged
  rw [answer_validate]
  cases r.header.validator.enabled with
  | false => simp
  | true =>
      cases findings (cat.known r.header.validator.registry) r.header.validator.excerpt
          (.dict none (cat.visible r.header.type.id r.data)) (cat.schemaOf r.header.type.id)
          r.header.mode with
      | nil => simp
      | cons first rest => cases first <;> simp

/-- A strict write that fails leaves the flags. It leaves other data than before exactly where it has
stored something, and then could not store the rest or left a record that cannot be judged. -/
theorem data_changed_iff_of_failed (hmode : r.header.mode = .strict) {call : Call}
    {act : Act Record Bool} (hwrite : call.write? cat = some act) {failure : Failure}
    (hfailed : (act.run r).result = .error failure) :
    (act.run r).state.header.valid = r.header.valid ∧
      (act.run r).state.header.tainted = r.header.tainted ∧
      ((act.run r).state.data ≠ r.data ↔
        ((call.stores cat).run r).state.data ≠ r.data ∧
          (((call.stores cat).run r).result = .error failure ∨
            ((call.stores cat).run r).result = .ok () ∧
              ((call.stores cat).run r).state.CannotBeJudged cat failure)) := by
  obtain ⟨shown, hwritten⟩ := Call.written hwrite r
  have hheader := Call.header_stores cat call r
  generalize (call.stores cat).run r = stored at hwritten hheader
  rw [hfailed] at hwritten
  generalize (act.run r).state = s at hwritten
  generalize hanswered : (Except.error failure : Except Failure Bool) = answered at hwritten
  cases hwritten with
  | stopped failure' hstored =>
      obtain rfl := Except.error.inj hanswered
      exact ⟨by rw [hheader], by rw [hheader], fun hdata => ⟨hdata, .inl hstored⟩, And.left⟩
  | unjudged failure' hstored hjudged =>
      obtain rfl := Except.error.inj hanswered
      exact ⟨by rw [hheader], by rw [hheader],
        fun hdata => ⟨hdata, .inr ⟨hstored, judgement_eq_error_iff.mp hjudged⟩⟩, And.left⟩
  | kept _ _ _ _ => cases hanswered
  | undone verdict hstored hjudged _ _ =>
      -- Only the note about the refusal failed, after the data had gone back.
      refine ⟨rfl, rfl, fun hdata => absurd rfl hdata, ?_⟩
      rintro ⟨_, hfails | ⟨_, hfails⟩⟩
      · rw [hstored] at hfails
        cases hfails
      · rw [judgement_eq_error_iff.mpr hfails] at hjudged
        cases hjudged
  | tainted _ _ _ _ hloose => exact absurd hmode hloose

/-! ### Boxes -/

/-- A box counts something, and may hold a note. -/
def boxes : Catalog where
  types := [.root,
    { className := "Note", schemaName := "Note", registry := some 0,
      baseSchema := [(.str "text", .str "String")] },
    { className := "Box", schemaName := "Box", registry := some 0,
      baseSchema := [(.str "count", .str "int"), (.str "note", .str "Note?")] }]
  registries := [[("Note", .type 1), ("Box", .type 2)]]

/-- A box that counts one. -/
def madeBox : Except Failure (Verdict × Record) :=
  (make boxes 2 (.dict none [(.str "count", .int 1)]) .strict none none .none).answer

/-- An update with a text for the count, and with a note that is wrong and has a number for a key. -/
def boxUpdate : Entries Value :=
  [(.str "count", .str "many"),
    (.str "note", .dict none [(.str "text", .int 1), (.atom none (.int 5), .int 1)])]

/-- No issue about the note can be reported, so the update fails. The count is stored by then. -/
theorem update_box : ∃ verdict r failure, madeBox = .ok (verdict, r) ∧ verdict.valid = true ∧
    r.header.mode = .strict ∧ ((update boxes boxUpdate).run r).result = .error failure ∧
      ((update boxes boxUpdate).run r).state.data ≠ r.data := by
  -- Equality of values is not decided by computing, so the counts are told apart by their kinds.
  let count (r : Record) : Option Value := r.data.find? (.str "count")
  obtain ⟨⟨verdict, r⟩, hmake, hrun⟩ := @Act.exists_of_passes (Verdict × Record)
    (fun out => out.1.valid && decide (out.2.header.mode = .strict) &&
      !((update boxes boxUpdate).run out.2).result.isOk &&
      ((count ((update boxes boxUpdate).run out.2).state).map Value.kind = some .string) &&
      ((count out.2).map Value.kind = some .int)) madeBox (by decide +kernel)
  simp only [Bool.and_eq_true, decide_eq_true_eq, Bool.not_eq_true'] at hrun
  obtain ⟨⟨⟨⟨hvalid, hmode⟩, hfails⟩, hafter⟩, hbefore⟩ := hrun
  cases hresult : ((update boxes boxUpdate).run r).result with
  | ok valid => rw [hresult] at hfails; cases hfails
  | error failure =>
      refine ⟨verdict, r, failure, hmake, hvalid, hmode, hresult, fun hdata => ?_⟩
      simp only [count, hdata] at hafter hbefore
      rw [hbefore] at hafter
      cases hafter

/-- The flags of the box stay, and what it holds then is what was stored before the update failed. -/
theorem data_changed_of_box : ∃ verdict r failure, madeBox = .ok (verdict, r) ∧
    ((update boxes boxUpdate).run r).result = .error failure ∧
      ((update boxes boxUpdate).run r).state.header.valid = r.header.valid ∧
      ((update boxes boxUpdate).run r).state.header.tainted = r.header.tainted ∧
      ((storeAll boxes boxUpdate).run r).state.data ≠ r.data := by
  obtain ⟨verdict, r, failure, hmake, _, hmode, hfailed, hchanged⟩ := update_box
  have hcall : (Call.update boxUpdate).write? boxes = some (update boxes boxUpdate) := rfl
  obtain ⟨hvalid, htainted, hdata⟩ := data_changed_iff_of_failed hmode hcall hfailed
  exact ⟨verdict, r, failure, hmake, hfailed, hvalid, htainted, (hdata.mp hchanged).1⟩

/-- Not every strict write that fails leaves the data as it was. -/
theorem not_data_eq_of_failed :
    ¬ ∀ (cat : Catalog) (r : Record) (call : Call) (act : Act Record Bool) (failure : Failure),
      r.header.mode = .strict → call.write? cat = some act →
        (act.run r).result = .error failure → (act.run r).state.data = r.data := by
  intro h
  obtain ⟨verdict, r, failure, _, _, hmode, hfailed, hchanged⟩ := update_box
  exact hchanged (h boxes r (.update boxUpdate) _ failure hmode rfl hfailed)

end Record

end TypedRecord
