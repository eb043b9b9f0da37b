import Mathlib.Data.List.Forall2
import TypedRecord.Record.Sharing
import TypedRecord.Proofs.Admission

/-!
# TypedRecord.Proofs.Sharing

What validators see of objects.

A descriptor leads into sequences and nowhere else; of anything else it sees the kind and the schema
(`mismatch?_of_no_items`). So marks are not seen (`Value.seenAs_unmarked`), and neither is an object that
is exchanged for one with the same looks, as long as the way to it leads through no sequence that is
exchanged (`Value.seenAs_revise`).

Entries are seen alike (`Entries.SeenAs`) when their keys are the same and no descriptor tells their
values apart. They are admitted together (`Catalog.admits_of_seenAs`).
-/

namespace TypedRecord

/-! ### Looks -/

/-- Two values have the same kind and are bound to the same schema. -/
structure Value.SameLooks (v w : Value) : Prop where
  kind_eq : w.kind = v.kind
  schema_eq : w.schema? = v.schema?

theorem Value.SameLooks.refl (v : Value) : v.SameLooks v := ⟨rfl, rfl⟩

theorem Value.SameLooks.symm {v w : Value} (h : v.SameLooks w) : w.SameLooks v :=
  ⟨h.kind_eq.symm, h.schema_eq.symm⟩

theorem Value.SameLooks.trans {u v w : Value} (h : u.SameLooks v) (h' : v.SameLooks w) :
    u.SameLooks w :=
  ⟨h'.kind_eq.trans h.kind_eq, h'.schema_eq.trans h.schema_eq⟩

theorem Value.SameLooks.kindName_eq {v w : Value} (h : v.SameLooks w) :
    w.kindName = v.kindName := by
  rw [Value.kindName, Value.kindName, h.kind_eq, h.schema_eq]

/-- What is no sequence looks like no sequence. -/
theorem Value.SameLooks.items?_eq_none {v w : Value} (h : v.SameLooks w) (hv : v.items? = none) :
    w.items? = none := by
  have hkind := v.kind_eq_array_iff
  rw [← h.kind_eq, w.kind_eq_array_iff, hv] at hkind
  simpa [Option.eq_none_iff_forall_ne_some] using hkind

/-- Values with the same looks have the same names. -/
theorem nameMismatch?_of_sameLooks {v w : Value} (h : v.SameLooks w) (known : Option (List String))
    (name : String) (nullable : Bool) :
    nameMismatch? known name nullable w = nameMismatch? known name nullable v := by
  unfold nameMismatch? nameMatches
  rw [h.kind_eq, h.schema_eq, h.kindName_eq]

/-- Of a value that is no sequence a descriptor sees the looks. -/
theorem mismatch?_of_no_items {v : Value} (h : v.items? = none) (known : Option (List String))
    (d : Descriptor) :
    mismatch? known d v =
      if v.kind = .nil then if d.nullable then none else some ⟨[], d, Kind.nil.name, none⟩
      else match d with
        | .array _ _ => some ⟨[], d, v.kindName, none⟩
        | .named name nullable => nameMismatch? known name nullable v := by
  cases v with
  | list _ _ | tuple _ _ => simp [Value.items?] at h
  | atom _ a => cases a <;> cases d <;> simp [mismatch?, Value.kind, Descriptor.nullable]
  | _ => cases d <;> simp [mismatch?, Value.kind]

/-- No descriptor tells two values apart. -/
def Value.SeenAs (v w : Value) : Prop :=
  ∀ (known : Option (List String)) (d : Descriptor), mismatch? known d w = mismatch? known d v

namespace Value

theorem SeenAs.refl (v : Value) : v.SeenAs v := fun _ _ => rfl

theorem SeenAs.trans {u v w : Value} (h : u.SeenAs v) (h' : v.SeenAs w) : u.SeenAs w :=
  fun known d => (h' known d).trans (h known d)

theorem SeenAs.symm {v w : Value} (h : v.SeenAs w) : w.SeenAs v := fun known d => (h known d).symm

theorem SameLooks.seenAs {v w : Value} (h : v.SameLooks w) (hv : v.items? = none) : v.SeenAs w := by
  intro known d
  rw [mismatch?_of_no_items hv, mismatch?_of_no_items (h.items?_eq_none hv), h.kind_eq, h.kindName_eq]
  cases d with
  | array element nullable => rfl
  | named name nullable => simp only [nameMismatch?_of_sameLooks h]

theorem itemMismatch?_of_seenAs {vs ws : List Value} (h : List.Forall₂ SeenAs vs ws)
    (known : Option (List String)) (element : Descriptor) (position : Nat) :
    itemMismatch? known element position ws = itemMismatch? known element position vs := by
  induction h generalizing position with
  | nil => rfl
  | cons hhead _ ih => simp only [itemMismatch?, hhead known element, ih]

/-- Sequences are seen by their items. -/
theorem seenAs_of_items {v w : Value} {vs ws : List Value} (hv : v.items? = some vs)
    (hw : w.items? = some ws) (h : List.Forall₂ SeenAs vs ws) : v.SeenAs w := by
  have hkinds : v.SameLooks w := by
    cases v with
    | list _ _ | tuple _ _ =>
        cases w with
        | list _ _ | tuple _ _ => exact ⟨rfl, rfl⟩
        | _ => simp [items?] at hw
    | _ => simp [items?] at hv
  intro known d
  cases v with
  | list _ _ | tuple _ _ =>
      obtain rfl := Option.some.inj hv
      cases w with
      | list _ _ | tuple _ _ =>
          obtain rfl := Option.some.inj hw
          cases d with
          | array element _ => simp only [mismatch?, itemMismatch?_of_seenAs h]
          | named name nullable =>
              simpa only [mismatch?] using nameMismatch?_of_sameLooks hkinds known name nullable
      | _ => simp [items?] at hw
  | _ => simp [items?] at hv

/-! ### Exchanged objects -/

/-- What is no sequence becomes something with the same looks. -/
def KeepsLooks (become : Value → Option Value) : Prop :=
  ∀ v w, become v = some w → v.items? = none → v.SameLooks w

variable {become : Value → Option Value}

/-- Where no part is looked into, the looks are those of the whole. -/
theorem sameLooks_revise (h : KeepsLooks become) {v : Value} (hv : v.items? = none) :
    v.SameLooks (v.revise become) := by
  cases hbecome : become v with
  | some w =>
      have hrevised : v.revise become = w := by cases v <;> simp [revise, hbecome]
      rw [hrevised]
      exact h v w hbecome hv
  | none =>
      cases v with
      | list _ _ | tuple _ _ => simp [items?] at hv
      | _ => simp only [revise, hbecome, Option.getD_none]; exact ⟨rfl, rfl⟩

mutual

/-- A value is seen as before if no sequence on the way to what is seen has become another. -/
theorem seenAs_revise (h : KeepsLooks become) : (v : Value) →
    v.meetsSequence (fun u => (become u).isSome) = false → v.SeenAs (v.revise become)
  | .list mark items, hv => by
      obtain ⟨hkept, hitems⟩ := Bool.or_eq_false_iff.mp hv
      have hnone := Option.isSome_eq_false_iff.mp hkept
      rw [Option.isNone_iff_eq_none] at hnone
      rw [revise, hnone]
      exact seenAs_of_items rfl rfl (seenAs_reviseItems h items hitems)
  | @Value.tuple form mark items, hv => by
      obtain ⟨hkept, hitems⟩ := Bool.or_eq_false_iff.mp hv
      have hnone := Option.isSome_eq_false_iff.mp hkept
      rw [Option.isNone_iff_eq_none] at hnone
      rw [revise, hnone]
      exact seenAs_of_items rfl rfl (seenAs_reviseItems h items hitems)
  | .atom _ _, _ | .reference _, _ | .buffer _ _, _ | .set _, _ | .dict _ _, _ | .view _ _, _
  | .record _ _ _, _ => (sameLooks_revise h rfl).seenAs rfl

theorem seenAs_reviseItems (h : KeepsLooks become) : (items : List Value) →
    anyMeetsSequence (fun u => (become u).isSome) items = false →
      List.Forall₂ SeenAs items (reviseItems become items)
  | [], _ => .nil
  | v :: vs, hvs => by
      obtain ⟨hhead, htail⟩ := Bool.or_eq_false_iff.mp hvs
      exact .cons (seenAs_revise h v hhead) (seenAs_reviseItems h vs htail)

end

mutual

/-- Where nothing becomes another, everything stays. -/
theorem revise_eq_self (h : ∀ v, become v = none) : (v : Value) → v.revise become = v
  | .list _ items | .tuple _ items => by
      simp only [revise, h, Option.getD_none, reviseItems_eq_self h items]
  | .dict _ entries | .view _ entries | .record _ _ entries => by
      simp only [revise, h, Option.getD_none, reviseEntries_eq_self h entries]
  | .atom _ _ | .reference _ | .buffer _ _ | .set _ => by simp only [revise, h, Option.getD_none]

theorem reviseItems_eq_self (h : ∀ v, become v = none) : (items : List Value) →
    reviseItems become items = items
  | [] => rfl
  | v :: vs => by simp only [reviseItems, revise_eq_self h v, reviseItems_eq_self h vs]

theorem reviseEntries_eq_self (h : ∀ v, become v = none) : (es : List (Key × Value)) →
    reviseEntries become es = es
  | [] => rfl
  | (k, v) :: es => by simp only [reviseEntries, revise_eq_self h v, reviseEntries_eq_self h es]

end

/-- A container without a mark is none that stands anywhere else. -/
theorem isOne_of_unmarked {old : Value} (h : old.mark = none) (v : Value) : old.isOne v = false := by
  cases old with
  | list _ _ | tuple _ _ | dict _ _ | view _ _ | record _ _ _ | buffer _ _ =>
      simp only [mark] at h
      cases v <;> simp [isOne, h]
  | _ => rfl

/-- One container has one look. -/
theorem sameLooks_of_isOne {old v : Value} (h : old.isOne v = true) : old.SameLooks v := by
  cases old with
  | record m header _ =>
      cases v with
      | record n header' _ =>
          simp only [isOne, Bool.and_eq_true, decide_eq_true_eq] at h
          exact ⟨rfl, by simp only [schema?, h.1.1]⟩
      | _ => simp [isOne] at h
  | _ => cases v <;> first | exact ⟨rfl, rfl⟩ | simp [isOne] at h

theorem keepsLooks_exchange {old new : Value} (h : old.items? = none → old.SameLooks new) :
    KeepsLooks fun v => if old.isOne v then some new else none := by
  intro v w hbecome hv
  obtain ⟨hone, hw⟩ := Option.ite_none_right_eq_some.mp hbecome
  obtain rfl := Option.some.inj hw
  have hlooks := sameLooks_of_isOne hone
  exact hlooks.symm.trans (h (hlooks.symm.items?_eq_none hv))

theorem isSome_exchange (old new : Value) :
    (fun v => (if old.isOne v then some new else none).isSome) = old.isOne := by
  funext v
  cases old.isOne v <;> rfl

mutual

/-- What is no sequence is no sequence that is met. -/
theorem meetsSequence_of_no_items {old : Value} (h : old.items? = none) : (v : Value) →
    v.meetsSequence old.isOne = false
  | .list _ items | .tuple _ items => by
      refine Bool.or_eq_false_iff.mpr ⟨?_, anyMeetsSequence_of_no_items h items⟩
      cases old with
      | list _ _ | tuple _ _ => simp [items?] at h
      | _ => rfl
  | .atom _ _ | .reference _ | .buffer _ _ | .set _ | .dict _ _ | .view _ _ | .record _ _ _ => rfl

theorem anyMeetsSequence_of_no_items {old : Value} (h : old.items? = none) : (items : List Value) →
    anyMeetsSequence old.isOne items = false
  | [] => rfl
  | v :: vs =>
      Bool.or_eq_false_iff.mpr
        ⟨meetsSequence_of_no_items h v, anyMeetsSequence_of_no_items h vs⟩

end

end Value

/-! ### Marks -/

mutual

/-- A key without marks on the tuples in it. -/
def Key.unmarked : Key → Key
  | .atom mark a => .atom mark a
  | .tuple _ items => .tuple none (unmarkedKeys items)

def unmarkedKeys : List Key → List Key
  | [] => []
  | k :: ks => k.unmarked :: unmarkedKeys ks

end

mutual

/-- A value without marks on the containers in it. -/
def Value.unmarked : Value → Value
  | .buffer _ data => .buffer none data
  | .list _ items => .list none (unmarkedItems items)
  | @Value.tuple form _ items => @Value.tuple form none (unmarkedItems items)
  | .dict _ entries => .dict none (unmarkedEntries entries)
  | .view _ entries => .view none (unmarkedEntries entries)
  | .record _ header data => .record none header (unmarkedEntries data)
  | v => v

def unmarkedItems : List Value → List Value
  | [] => []
  | v :: vs => v.unmarked :: unmarkedItems vs

def unmarkedEntries : List (Key × Value) → List (Key × Value)
  | [] => []
  | (k, v) :: es => (k.unmarked, v.unmarked) :: unmarkedEntries es

end

/-- A record without marks on the containers in it. -/
def Record.unmarked (r : Record) : Record := { r with data := unmarkedEntries r.data }

mutual

/-- The marks of a key do not matter. -/
theorem Key.canon_unmarked : (k : Key) → k.unmarked.canon = k.canon
  | .atom _ _ => rfl
  | .tuple _ items => by simp only [Key.unmarked, Key.canon, canonItems_unmarkedKeys items]

theorem canonItems_unmarkedKeys : (ks : List Key) →
    Key.canonItems (unmarkedKeys ks) = Key.canonItems ks
  | [] => rfl
  | k :: ks => by
      simp only [unmarkedKeys, Key.canonItems, k.canon_unmarked, canonItems_unmarkedKeys ks]

end

mutual

/-- No descriptor sees marks. -/
theorem Value.seenAs_unmarked : (v : Value) → v.SeenAs v.unmarked
  | .list _ items | .tuple _ items => Value.seenAs_of_items rfl rfl (seenAs_unmarkedItems items)
  | .atom _ _ | .reference _ | .set _ => .refl _
  | .buffer _ _ | .dict _ _ | .view _ _ | .record _ _ _ => by
      refine Value.SameLooks.seenAs ⟨?_, ?_⟩ rfl <;> rfl

theorem seenAs_unmarkedItems : (items : List Value) →
    List.Forall₂ Value.SeenAs items (unmarkedItems items)
  | [] => .nil
  | v :: vs => .cons v.seenAs_unmarked (seenAs_unmarkedItems vs)

end

/-! ### Entries -/

/-- Entries under the same keys, with values that no descriptor tells apart. -/
def Entries.SeenAs (es fs : Entries Value) : Prop :=
  List.Forall₂ (fun e f => e.1.canon = f.1.canon ∧ e.2.SeenAs f.2) es fs

namespace Entries.SeenAs

variable {es fs gs : Entries Value}

theorem trans (h : SeenAs es fs) (h' : SeenAs fs gs) : SeenAs es gs := by
  induction h generalizing gs with
  | nil => exact h'
  | cons hhead _ ih =>
      cases h' with
      | cons hhead' htail' =>
          exact .cons ⟨hhead.1.trans hhead'.1, hhead.2.trans hhead'.2⟩ (ih htail')

theorem symm (h : SeenAs es fs) : SeenAs fs es := by
  induction h with
  | nil => exact .nil
  | cons hhead _ ih => exact .cons ⟨hhead.1.symm, hhead.2.symm⟩ ih

/-- They are left out of sight together. -/
theorem without (h : SeenAs es fs) (key : Key) :
    SeenAs (Entries.without key es) (Entries.without key fs) := by
  induction h with
  | nil => exact .nil
  | @cons e f _ _ hhead _ ih =>
      have hsame : e.1.same key = f.1.same key := by simp only [Key.same, hhead.1]
      unfold Entries.without
      simp only [List.filter_cons, hsame]
      split
      · exact .cons hhead ih
      · exact ih

/-- A field is in order in both or in none. -/
theorem fieldInOrder (h : SeenAs es fs) {known : Option (List String)} {field : Key} {declared : Value}
    (hfield : FieldInOrder known es field declared) : FieldInOrder known fs field declared := by
  obtain ⟨d, hd, hvalue⟩ := hfield
  refine ⟨d, hd, ?_⟩
  induction h with
  | nil => exact hvalue
  | @cons e f _ _ hhead _ ih =>
      have hsame : e.1.same field = f.1.same field := by simp only [Key.same, hhead.1]
      rw [Entries.find?_cons] at hvalue ⊢
      rw [hsame] at hvalue
      by_cases hfound : f.1.same field = true
      · rw [if_pos hfound] at hvalue ⊢
        exact (hhead.2 known d).trans hvalue
      · rw [if_neg hfound] at hvalue ⊢
        exact ih hvalue

theorem forall_has (h : SeenAs es fs) {schema : Schema}
    (hes : ∀ e ∈ es, schema.has e.1 = true) : ∀ f ∈ fs, schema.has f.1 = true := by
  induction h with
  | nil => simp
  | cons hhead _ ih =>
      obtain ⟨hfirst, hrest⟩ := List.forall_mem_cons.mp hes
      refine List.forall_mem_cons.mpr ⟨?_, ih hrest⟩
      rw [Entries.has, ← Entries.find?_congr (by simpa [Key.same] using hhead.1)]
      exact hfirst

end Entries.SeenAs

theorem reviseEntries_eq_map (become : Value → Option Value) (es : Entries Value) :
    reviseEntries become es = es.map fun e => (e.1, e.2.revise become) := by
  induction es with
  | nil => rfl
  | cons e es ih => simp [reviseEntries, ih]

theorem Entries.seenAs_revise {become : Value → Option Value} (h : Value.KeepsLooks become)
    {es : Entries Value}
    (hes : ∀ e ∈ es, e.2.meetsSequence (fun u => (become u).isSome) = false) :
    es.SeenAs (reviseEntries become es) := by
  induction es with
  | nil => exact .nil
  | cons e es ih =>
      obtain ⟨hhead, htail⟩ := List.forall_mem_cons.mp hes
      exact .cons ⟨rfl, Value.seenAs_revise h e.2 hhead⟩ (ih htail)

theorem Entries.seenAs_unmarked (es : Entries Value) : es.SeenAs (unmarkedEntries es) := by
  induction es with
  | nil => exact .nil
  | cons e es ih => exact .cons ⟨e.1.canon_unmarked.symm, e.2.seenAs_unmarked⟩ ih

theorem Entries.SeenAs.refl (es : Entries Value) : es.SeenAs es :=
  List.forall₂_same.mpr fun e _ => ⟨rfl, .refl e.2⟩

theorem Catalog.visible_reviseEntries (cat : Catalog) (t : TypeId) (become : Value → Option Value)
    (data : Entries Value) :
    cat.visible t (reviseEntries become data) = reviseEntries become (cat.visible t data) := by
  simp [visible, reviseEntries_eq_map, List.filter_map, Function.comp_def]

/-- Data that is seen alike is admitted together. -/
theorem Catalog.admits_of_seenAs {cat : Catalog} {t : TypeId} {v : Validator} {mode : Mode}
    {data data' : Entries Value} (h : (cat.visible t data).SeenAs (cat.visible t data'))
    (hadmits : cat.Admits t v mode data) : cat.Admits t v mode data' := by
  rw [admits_iff] at hadmits ⊢
  rcases hadmits with hdisabled | ⟨hschema, hfields, hstrict⟩
  · exact .inl hdisabled
  · exact .inr ⟨hschema, fun f hf => h.fieldInOrder (hfields f hf),
      fun hmode => h.forall_has (hstrict hmode)⟩

end TypedRecord
