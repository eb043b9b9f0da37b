import TypedRecord.Proofs.Wrapping

/-!
# TypedRecord.Proofs.Listed

Values with lists for tuples.

Where an array is wrapped, a tuple comes back as a list. `Value.listed` does this to all tuples in a
value that an array descriptor leads to, so two values are the same listed if they differ in that only.
No descriptor tells them apart (`mismatch?_listed`), so no validator does (`Catalog.admits_listed`), and
wrapping makes the same of them (`settled_listed`).
-/

namespace TypedRecord

mutual

/-- A value with lists for tuples. Mappings and records are not looked into, since no descriptor leads
into them. -/
def Value.listed : Value → Value
  | .list _ items | .tuple _ items => .list none (listedItems items)
  | v => v

def listedItems : List Value → List Value
  | [] => []
  | v :: vs => v.listed :: listedItems vs

end

/-- The values of some entries listed. -/
def listedEntries (es : Entries Value) : Entries Value := es.map fun e => (e.1, e.2.listed)

mutual

@[simp] theorem Value.listed_listed : (v : Value) → v.listed.listed = v.listed
  | .list _ items | .tuple _ items => by simp [Value.listed, listedItems_listedItems items]
  | .atom _ _ | .reference _ | .buffer _ _ | .set _ | .dict _ _ | .view _ _ | .record _ _ _ => rfl

theorem listedItems_listedItems : (items : List Value) →
    listedItems (listedItems items) = listedItems items
  | [] => rfl
  | v :: vs => by simp [listedItems, Value.listed_listed v, listedItems_listedItems vs]

end

/-- A sequence becomes a list of its items listed. -/
theorem Value.listed_of_items? {v : Value} {items : List Value} (h : v.items? = some items) :
    v.listed = .list none (listedItems items) := by
  cases v with
  | list _ vs | tuple _ vs =>
      obtain rfl : vs = items := Option.some.inj h
      rfl
  | _ => simp [Value.items?] at h

/-- Nothing else changes. -/
theorem Value.listed_of_no_items {v : Value} (h : v.items? = none) : v.listed = v := by
  cases v with
  | list _ _ | tuple _ _ => simp [Value.items?] at h
  | _ => rfl

/-! ### Matching -/

@[simp] theorem Value.kind_listed (v : Value) : v.listed.kind = v.kind := by
  cases v <;> rfl

@[simp] theorem Value.schema?_listed (v : Value) : v.listed.schema? = v.schema? := by
  cases v <;> rfl

@[simp] theorem Value.kindName_listed (v : Value) : v.listed.kindName = v.kindName := by
  simp [Value.kindName]

theorem nameMismatch?_listed (known : Option (List String)) (name : String) (nullable : Bool)
    (v : Value) :
    nameMismatch? known name nullable v.listed = nameMismatch? known name nullable v := by
  simp [nameMismatch?, nameMatches]

mutual

/-- No descriptor tells a tuple from a list. -/
@[simp] theorem mismatch?_listed (known : Option (List String)) :
    (d : Descriptor) → (v : Value) → mismatch? known d v.listed = mismatch? known d v
  | .array element _, .list _ items | .array element _, .tuple _ items => by
      simp only [Value.listed, mismatch?]
      exact itemMismatch?_listedItems known element 0 items
  | .named name nullable, .list mark items => by
      have := nameMismatch?_listed known name nullable (.list mark items)
      simpa only [Value.listed, mismatch?] using this
  | .named name nullable, @Value.tuple form mark items => by
      have := nameMismatch?_listed known name nullable (@Value.tuple form mark items)
      simpa only [Value.listed, mismatch?] using this
  | _, .atom _ _ | _, .reference _ | _, .buffer _ _ | _, .set _ | _, .dict _ _ | _, .view _ _
  | _, .record _ _ _ => rfl

theorem itemMismatch?_listedItems (known : Option (List String)) (element : Descriptor)
    (position : Nat) : (items : List Value) →
      itemMismatch? known element position (listedItems items) =
        itemMismatch? known element position items
  | [] => rfl
  | v :: vs => by
      simp only [listedItems, itemMismatch?, mismatch?_listed known element v,
        itemMismatch?_listedItems known element (position + 1) vs]

end

/-! ### Entries -/

@[simp] theorem keys_listedEntries (es : Entries Value) :
    Entries.keys (listedEntries es) = Entries.keys es := by
  simp [listedEntries, Entries.keys, Function.comp_def]

theorem find?_listedEntries (key : Key) (es : Entries Value) :
    Entries.find? key (listedEntries es) = (Entries.find? key es).map Value.listed :=
  Entries.find?_map Value.listed key es

theorem listedEntries_put (key : Key) (v : Value) (es : Entries Value) :
    listedEntries (es.put key v) = (listedEntries es).put key v.listed :=
  Entries.map_put Value.listed key v es

namespace Catalog

variable (cat : Catalog) (t : TypeId)

theorem visible_listedEntries (data : Entries Value) :
    cat.visible t (listedEntries data) = listedEntries (cat.visible t data) := by
  simp [visible, listedEntries, List.filter_map, Function.comp_def]

theorem fieldInOrder_listedEntries (known : Option (List String)) (data : Entries Value)
    (field : Key) (declared : Value) :
    FieldInOrder known (listedEntries data) field declared ↔
      FieldInOrder known data field declared := by
  unfold FieldInOrder
  rw [find?_listedEntries]
  cases data.find? field <;> simp

/-- A validator admits data if it admits the data with lists for tuples. -/
theorem admits_listed (v : Validator) (mode : Mode) (data : Entries Value) :
    cat.Admits t v mode (listedEntries data) ↔ cat.Admits t v mode data := by
  simp only [admits_iff, visible_declared_iff, keys_listedEntries]
  simp only [visible_listedEntries, fieldInOrder_listedEntries]

end Catalog

/-! ### Wrapping -/

section Settled

variable {cat : Catalog} {mode : Mode} {registry : Option RegistryId}

/-- A sequence at a typed array is, with lists for tuples, a list of its items settled. -/
theorem settled_items_listed {v : Value} {items : List Value} (h : v.items? = some items)
    (element : Descriptor) (nullable : Bool) :
    (settled cat mode registry false (.array element nullable) v).map Value.listed =
      ((settledItems cat mode registry false element items).map listedItems).map
        (.list none) := by
  cases v with
  | list mark vs =>
      obtain rfl : vs = items := Option.some.inj h
      obtain ⟨mark', _, hsettled⟩ :=
        @settled_list_array cat mode registry false mark vs element nullable
      rw [hsettled]
      cases settledItems cat mode registry false element vs <;> rfl
  | @tuple form mark vs =>
      obtain rfl : vs = items := Option.some.inj h
      rw [settled_tuple_array]
      cases hwrapping : cat.wrapping? registry element with
      | none =>
          rw [settledItems_of_none hwrapping, settle_false_none, List.map_id]
          rfl
      | some wrapping =>
          simp only [Option.isSome_some, if_true]
          cases settledItems cat mode registry false element vs <;> rfl
  | _ => simp [Value.items?] at h

theorem settledItems_cons_listed (element : Descriptor) (v : Value) (vs : List Value) :
    (settledItems cat mode registry false element (v :: vs)).map listedItems =
      (settled cat mode registry false element v).map Value.listed >>= fun w =>
        (settledItems cat mode registry false element vs).map listedItems >>= fun ws =>
          .ok (w :: ws) := by
  rw [settledItems, List.mapM_cons, ← settledItems]
  cases settled cat mode registry false element v with
  | error failure => rfl
  | ok w => cases settledItems cat mode registry false element vs <;> rfl

/-- Wrapping makes of a value what it makes of it with lists for tuples. -/
theorem settled_listed (d : Descriptor) (v : Value) :
    (settled cat mode registry false d v.listed).map Value.listed =
      (settled cat mode registry false d v).map Value.listed := by
  induction d generalizing v with
  | named name nullable =>
      cases hitems : v.items? with
      | none => rw [Value.listed_of_no_items hitems]
      | some items =>
          have hlisted := Value.listed_of_items? hitems
          rw [settled_items_named hitems, settled_items_named (by rw [hlisted]; rfl)]
          simp [settle, Except.map]
  | array element nullable ih =>
      cases hitems : v.items? with
      | none => rw [Value.listed_of_no_items hitems]
      | some items =>
          have hall : (settledItems cat mode registry false element (listedItems items)).map
              listedItems =
                (settledItems cat mode registry false element items).map listedItems := by
            clear hitems
            induction items with
            | nil => rfl
            | cons w ws hws =>
                rw [listedItems, settledItems_cons_listed, settledItems_cons_listed, ih, hws]
          have hlisted := Value.listed_of_items? hitems
          rw [settled_items_listed hitems, settled_items_listed (by rw [hlisted]; rfl), hall]

/-- Of values that are the same with lists for tuples wrapping makes such values. -/
theorem listed_eq_of_settled {d : Descriptor} {v v' w w' : Value} (hsame : v.listed = v'.listed)
    (h : settled cat mode registry false d v = .ok w)
    (h' : settled cat mode registry false d v' = .ok w') : w.listed = w'.listed := by
  have hw := @settled_listed cat mode registry d v
  have hw' := @settled_listed cat mode registry d v'
  rw [h] at hw
  rw [h', ← hsame, hw] at hw'
  exact Except.ok.inj hw'

end Settled

end TypedRecord
