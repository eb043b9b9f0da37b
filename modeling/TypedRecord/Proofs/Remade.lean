import TypedRecord.Matching
import TypedRecord.Value.Plain
import TypedRecord.Value.Text

/-!
# TypedRecord.Proofs.Remade

Values with their containers made anew.

Where a record is built, lists and mappings are copied; where it is flattened and built again, the
records inside are new objects too, and views of mappings have turned into mappings. `Value.remade` is
the value with all of this done to it, so two values are alike when they are the same remade. It
forgets at least what `Value.copy` and `Value.plain` forget (`Value.remade_copy`,
`Value.plain_remade`), and it keeps what a value matches (`mismatch?_remade`) and whether it can be
written (`Value.isWritable_remade`). What holds of copies follows.
-/

namespace TypedRecord

mutual

/-- A value with its lists, mappings and records made anew; a view becomes a mapping. Rows are taken
over as they are. -/
def Value.remade : Value → Value
  | .list _ items => .list none (remadeItems items)
  | .dict _ entries | .view _ entries => .dict none (remadeEntries entries)
  | .record _ header data => .record none header (remadeEntries data)
  | v => v

def remadeItems : List Value → List Value
  | [] => []
  | v :: vs => v.remade :: remadeItems vs

def remadeEntries : List (Key × Value) → List (Key × Value)
  | [] => []
  | (k, v) :: es => (k, v.remade) :: remadeEntries es

end

theorem remadeEntries_eq_map (es : List (Key × Value)) :
    remadeEntries es = es.map fun e => (e.1, e.2.remade) := by
  induction es with
  | nil => rfl
  | cons e es ih => obtain ⟨k, v⟩ := e; simp [remadeEntries, ih]

@[simp] theorem keys_remadeEntries (es : List (Key × Value)) :
    Entries.keys (remadeEntries es) = Entries.keys es := by
  simp [remadeEntries_eq_map, Entries.keys, Function.comp_def]

theorem find?_remadeEntries (key : Key) (es : Entries Value) :
    Entries.find? key (remadeEntries es) = (Entries.find? key es).map Value.remade := by
  rw [remadeEntries_eq_map]
  exact Entries.find?_map Value.remade key es

/-! ### Copies and plain forms -/

mutual

@[simp] theorem Value.remade_copy : (v : Value) → v.copy.remade = v.remade
  | .list _ items => by simp [Value.copy, Value.remade, remadeItems_copyItems items]
  | .dict _ entries => by simp [Value.copy, Value.remade, remadeEntries_copyEntries entries]
  | .atom _ _ | .reference _ | .buffer _ _ | .tuple _ _ | .set _ | .view _ _ | .record _ _ _ => rfl

theorem remadeItems_copyItems : (items : List Value) →
    remadeItems (copyItems items) = remadeItems items
  | [] => rfl
  | v :: vs => by simp [copyItems, remadeItems, Value.remade_copy v, remadeItems_copyItems vs]

@[simp] theorem remadeEntries_copyEntries : (es : List (Key × Value)) →
    remadeEntries (copyEntries es) = remadeEntries es
  | [] => rfl
  | (_, v) :: es => by
      simp [copyEntries, remadeEntries, Value.remade_copy v, remadeEntries_copyEntries es]

end

mutual

/-- Making anew what has been made anew changes nothing. -/
@[simp] theorem Value.remade_remade : (v : Value) → v.remade.remade = v.remade
  | .list _ items => by simp [Value.remade, remadeItems_remadeItems items]
  | .dict _ entries | .view _ entries | .record _ _ entries => by
      simp [Value.remade, remadeEntries_remadeEntries entries]
  | .atom _ _ | .reference _ | .buffer _ _ | .tuple _ _ | .set _ => rfl

theorem remadeItems_remadeItems : (items : List Value) →
    remadeItems (remadeItems items) = remadeItems items
  | [] => rfl
  | v :: vs => by simp [remadeItems, Value.remade_remade v, remadeItems_remadeItems vs]

@[simp] theorem remadeEntries_remadeEntries : (es : List (Key × Value)) →
    remadeEntries (remadeEntries es) = remadeEntries es
  | [] => rfl
  | (_, v) :: es => by
      simp [remadeEntries, Value.remade_remade v, remadeEntries_remadeEntries es]

end

mutual

@[simp] theorem Value.plain_remade : (v : Value) → v.remade.plain = v.plain
  | .list _ items => by simp [Value.remade, Value.plain, plainItems_remadeItems items]
  | .dict _ entries | .view _ entries | .record _ _ entries => by
      simp [Value.remade, Value.plain, plainEntries_remadeEntries entries]
  | .atom _ _ | .reference _ | .buffer _ _ | .tuple _ _ | .set _ => rfl

theorem plainItems_remadeItems : (items : List Value) →
    plainItems (remadeItems items) = plainItems items
  | [] => rfl
  | v :: vs => by simp [remadeItems, plainItems, Value.plain_remade v, plainItems_remadeItems vs]

@[simp] theorem plainEntries_remadeEntries : (es : List (Key × Value)) →
    plainEntries (remadeEntries es) = plainEntries es
  | [] => rfl
  | (_, v) :: es => by
      simp [remadeEntries, plainEntries, Value.plain_remade v, plainEntries_remadeEntries es]

end

mutual

/-- Plain forms are made anew already. -/
@[simp] theorem Value.remade_plain : (v : Value) → v.plain.remade = v.plain
  | .list _ items => by simp [Value.remade, Value.plain, remadeItems_plainItems items]
  | .dict _ entries | .view _ entries | .record _ _ entries => by
      simp [Value.remade, Value.plain, remadeEntries_plainEntries entries]
  | .atom _ _ | .reference _ | .buffer _ _ | .tuple _ _ | .set _ => rfl

theorem remadeItems_plainItems : (items : List Value) →
    remadeItems (plainItems items) = plainItems items
  | [] => rfl
  | v :: vs => by simp [remadeItems, plainItems, Value.remade_plain v, remadeItems_plainItems vs]

@[simp] theorem remadeEntries_plainEntries : (es : List (Key × Value)) →
    remadeEntries (plainEntries es) = plainEntries es
  | [] => rfl
  | (_, v) :: es => by
      simp [remadeEntries, plainEntries, Value.remade_plain v, remadeEntries_plainEntries es]

end

mutual

/-- A plain form is its own copy. -/
@[simp] theorem Value.copy_plain : (v : Value) → v.plain.copy = v.plain
  | .list _ items => by simp [Value.copy, Value.plain, copyItems_plainItems items]
  | .dict _ entries | .view _ entries | .record _ _ entries => by
      simp [Value.copy, Value.plain, copyEntries_plainEntries entries]
  | .atom _ _ | .reference _ | .buffer _ _ | .tuple _ _ | .set _ => rfl

theorem copyItems_plainItems : (items : List Value) →
    copyItems (plainItems items) = plainItems items
  | [] => rfl
  | v :: vs => by simp [copyItems, plainItems, Value.copy_plain v, copyItems_plainItems vs]

@[simp] theorem copyEntries_plainEntries : (es : List (Key × Value)) →
    copyEntries (plainEntries es) = plainEntries es
  | [] => rfl
  | (_, v) :: es => by
      simp [copyEntries, plainEntries, Value.copy_plain v, copyEntries_plainEntries es]

end

@[simp] theorem Value.plain_copy (v : Value) : v.copy.plain = v.plain := by
  rw [← Value.plain_remade, Value.remade_copy, Value.plain_remade]

@[simp] theorem plainEntries_copyEntries (es : List (Key × Value)) :
    plainEntries (copyEntries es) = plainEntries es := by
  rw [← plainEntries_remadeEntries, remadeEntries_copyEntries, plainEntries_remadeEntries]

/-! ### Matching -/

@[simp] theorem Value.kind_remade (v : Value) : v.remade.kind = v.kind := by
  cases v <;> rfl

@[simp] theorem Value.schema?_remade (v : Value) : v.remade.schema? = v.schema? := by
  cases v <;> rfl

@[simp] theorem Value.kindName_remade (v : Value) : v.remade.kindName = v.kindName := by
  simp [Value.kindName]

theorem nameMismatch?_remade (known : Option (List String)) (name : String) (nullable : Bool)
    (v : Value) :
    nameMismatch? known name nullable v.remade = nameMismatch? known name nullable v := by
  simp [nameMismatch?, nameMatches]

mutual

/-- Values match the same when they are made anew. -/
theorem mismatch?_remade (known : Option (List String)) :
    (d : Descriptor) → (v : Value) → mismatch? known d v.remade = mismatch? known d v
  | .array element _, .list _ items => by
      simp only [Value.remade, mismatch?]
      exact itemMismatch?_remadeItems known element 0 items
  | .named name nullable, .list mark items => by
      have := nameMismatch?_remade known name nullable (.list mark items)
      simpa only [Value.remade, mismatch?] using this
  | .named name nullable, .dict mark entries => by
      have := nameMismatch?_remade known name nullable (.dict mark entries)
      simpa only [Value.remade, mismatch?] using this
  | .named name nullable, .view mark entries => by
      have := nameMismatch?_remade known name nullable (.view mark entries)
      simpa only [Value.remade, mismatch?] using this
  | .named name nullable, .record mark header data => by
      have := nameMismatch?_remade known name nullable (.record mark header data)
      simpa only [Value.remade, mismatch?] using this
  | .array _ _, .dict _ _ | .array _ _, .view _ _ | .array _ _, .record _ _ _ => rfl
  | _, .atom _ _ | _, .reference _ | _, .buffer _ _ | _, .tuple _ _ | _, .set _ => rfl

theorem itemMismatch?_remadeItems (known : Option (List String)) (element : Descriptor)
    (position : Nat) : (items : List Value) →
      itemMismatch? known element position (remadeItems items) =
        itemMismatch? known element position items
  | [] => rfl
  | v :: vs => by
      simp only [remadeItems, itemMismatch?, mismatch?_remade known element v,
        itemMismatch?_remadeItems known element (position + 1) vs]

end

mutual

@[simp] theorem Value.isWritable_remade : (v : Value) → v.remade.isWritable = v.isWritable
  | .list _ items => by simp [Value.remade, Value.isWritable, areWritableItems_remadeItems items]
  | .dict _ entries | .view _ entries | .record _ _ entries => by
      simp [Value.remade, Value.isWritable, areWritableEntries_remadeEntries entries]
  | .atom _ _ | .reference _ | .buffer _ _ | .tuple _ _ | .set _ => rfl

theorem areWritableItems_remadeItems : (items : List Value) →
    areWritableItems (remadeItems items) = areWritableItems items
  | [] => rfl
  | v :: vs => by
      simp [remadeItems, areWritableItems, Value.isWritable_remade v, areWritableItems_remadeItems vs]

theorem areWritableEntries_remadeEntries : (es : List (Key × Value)) →
    areWritableEntries (remadeEntries es) = areWritableEntries es
  | [] => rfl
  | (_, v) :: es => by
      simp [remadeEntries, areWritableEntries, Value.isWritable_remade v,
        areWritableEntries_remadeEntries es]

end

/-! ### What copies keep -/

/-- A copy matches what the original matches. -/
theorem mismatch?_copy (known : Option (List String)) (d : Descriptor) (v : Value) :
    mismatch? known d v.copy = mismatch? known d v := by
  rw [← mismatch?_remade, Value.remade_copy, mismatch?_remade]

@[simp] theorem Value.isWritable_copy (v : Value) : v.copy.isWritable = v.isWritable := by
  rw [← Value.isWritable_remade, Value.remade_copy, Value.isWritable_remade]

end TypedRecord
