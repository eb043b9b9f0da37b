import TypedRecord.Value

/-!
# TypedRecord.Value.Plain

Copies and plain forms of values.

* `Value.copy` is the defensive copy of incoming data: lists and writable mappings are made anew at
  every depth, while tuples, views and records are taken over as they are.
* `Value.plain` flattens records: a record becomes the mapping of its data, views become writable
  mappings, and lists and mappings are flattened inside. Tuples are taken over as they are.
-/

namespace TypedRecord

mutual

/-- The defensive copy of a value. -/
def Value.copy : Value → Value
  | .list _ items => .list none (copyItems items)
  | .dict _ entries => .dict none (copyEntries entries)
  | v => v

def copyItems : List Value → List Value
  | [] => []
  | v :: vs => v.copy :: copyItems vs

def copyEntries : List (Key × Value) → List (Key × Value)
  | [] => []
  | (k, v) :: es => (k, v.copy) :: copyEntries es

end

mutual

/-- The plain form of a value. -/
def Value.plain : Value → Value
  | .list _ items => .list none (plainItems items)
  | .dict _ entries | .view _ entries => .dict none (plainEntries entries)
  | .record _ _ data => .dict none (plainEntries data)
  | v => v

def plainItems : List Value → List Value
  | [] => []
  | v :: vs => v.plain :: plainItems vs

/-- The plain form of a mapping's entries; keys and their order stay. -/
def plainEntries : List (Key × Value) → List (Key × Value)
  | [] => []
  | (k, v) :: es => (k, v.plain) :: plainEntries es

end

theorem copyItems_eq_map (vs : List Value) : copyItems vs = vs.map Value.copy := by
  induction vs with
  | nil => rfl
  | cons v vs ih => simp [copyItems, ih]

theorem copyEntries_eq_map (es : List (Key × Value)) :
    copyEntries es = es.map fun e => (e.1, e.2.copy) := by
  induction es with
  | nil => rfl
  | cons e es ih => obtain ⟨k, v⟩ := e; simp [copyEntries, ih]

theorem plainEntries_eq_map (es : List (Key × Value)) :
    plainEntries es = es.map fun e => (e.1, e.2.plain) := by
  induction es with
  | nil => rfl
  | cons e es ih => obtain ⟨k, v⟩ := e; simp [plainEntries, ih]

/-- The keys of a copy are the keys of the mapping. -/
@[simp] theorem keys_copyEntries (es : List (Key × Value)) :
    Entries.keys (copyEntries es) = Entries.keys es := by
  simp [copyEntries_eq_map, Entries.keys, Function.comp_def]

/-- The keys of the plain form are the keys of the mapping. -/
@[simp] theorem keys_plainEntries (es : List (Key × Value)) :
    Entries.keys (plainEntries es) = Entries.keys es := by
  simp [plainEntries_eq_map, Entries.keys, Function.comp_def]

end TypedRecord
