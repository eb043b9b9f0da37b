import TypedRecord.Proofs.Rewrapping

/-!
# TypedRecord.Proofs.Copied

What is copied and then wrapped, and what is wrapped as it is.

A new record copies its data and wraps the copy; a write wraps the value that it is given. The two come
to the same, but for which objects lists and mappings are: values are compared by their copies, which
forget just that (`copy_settled`). Records are not copied, so the records that the two build, or take
over, are the same in every detail.
-/

namespace TypedRecord

section Settled

variable {cat : Catalog} {mode : Mode} {registry : Option RegistryId}

/-- What stands has the copy that the value has, whether or not it was copied. -/
@[simp] theorem Value.copy_settle_none (fresh : Bool) (v : Value) :
    (settle fresh none v).copy = v.copy := by
  cases fresh with
  | false => rfl
  | true => exact Value.copy_copy v

/-- Copying what settled items leave is copying what each of them leaves. -/
theorem map_copyItems_settledItems (fresh : Bool) (element : Descriptor) (items : List Value) :
    (settledItems cat mode registry fresh element items).map copyItems =
      items.mapM fun v => (settled cat mode registry fresh element v).map Value.copy := by
  induction items with
  | nil => rfl
  | cons v vs ih =>
      rw [settledItems, List.mapM_cons, ← settledItems, List.mapM_cons, ← ih]
      cases settled cat mode registry fresh element v with
      | error failure => rfl
      | ok w => cases settledItems cat mode registry fresh element vs <;> rfl

/-- A mapping at a name stands, or is built of, in the same way whether or not it is to be copied. -/
theorem copy_settled_entries_named {name : String} {nullable : Bool} {v : Value}
    {entries : Entries Value} (hentries : v.entries? = some entries) (fresh : Bool) :
    (settled cat mode registry fresh (.named name nullable) v).map Value.copy =
      (settled cat mode registry false (.named name nullable) v).map Value.copy := by
  rcases cat.wrapping?_named_cases registry name nullable with hfound | ⟨factory, hfound⟩
  · simp [settled_of_none hfound, Except.map]
  · cases factory with
    | type t =>
        simp only [settled_build hfound hentries]
        cases (cat.construct t mode (cat.defaultSetup t) entries).answer with
        | error failure => rfl
        | ok out => cases hvalid : out.2.header.valid <;> simp [Except.map, hvalid]
    | bound schema => simp only [settled_bound hfound hentries]
    | echo =>
        have hcopy (fresh : Bool) : (settled cat mode registry fresh (.named name nullable) v).map
            Value.copy = .ok (.list none [.dict none (copyEntries entries), .str mode.word]) := by
          obtain ⟨shown, hshown, hsettled⟩ :=
            @settled_echo cat mode registry fresh _ _ _ _ hfound hentries
          rw [hsettled]
          rcases hshown with rfl | rfl <;> simp [Except.map, Value.copy, copyItems]
        rw [hcopy, hcopy]

/-- What holds itself stands where nothing is wrapped, and cannot be looked into elsewhere. -/
theorem copy_settled_reference (fresh : Bool) (d : Descriptor) (mark : Nat) :
    (settled cat mode registry fresh d (.reference mark)).map Value.copy =
      (settled cat mode registry false d (.reference mark)).map Value.copy := by
  cases hwrapping : cat.wrapping? registry d with
  | none => simp [settled_of_none hwrapping, Except.map]
  | some wrapping =>
      simp only [settled, wrap?, hwrapping]
      rfl

/-- A list at an array stands with its items settled, and its copy with theirs copied. -/
theorem copy_settled_list (fresh : Bool) (mark : Mark) (items : List Value) (element : Descriptor)
    (nullable : Bool) :
    (settled cat mode registry fresh (.array element nullable) (.list mark items)).map Value.copy =
      ((settledItems cat mode registry fresh element items).map copyItems).map (.list none) := by
  obtain ⟨mark', _, hlist⟩ := @settled_list_array cat mode registry fresh mark items element nullable
  rw [hlist]
  cases settledItems cat mode registry fresh element items <;> rfl

/-- Whether or not what stands is copied, what wrapping leaves has one copy, or wrapping fails alike. -/
theorem copy_settled (fresh : Bool) (d : Descriptor) (v : Value) :
    (settled cat mode registry fresh d v).map Value.copy =
      (settled cat mode registry false d v).map Value.copy := by
  induction d generalizing fresh v with
  | named name nullable =>
      rcases v.form with hsolid | ⟨items, hitems⟩ | ⟨entries, hentries⟩ | ⟨mark, rfl⟩
      · rw [settled_of_solid hsolid, settled_of_solid hsolid]
      · simp [settled_items_named hitems, Except.map]
      · exact copy_settled_entries_named hentries fresh
      · exact copy_settled_reference fresh _ mark
  | array element nullable ih =>
      have hitems (items : List Value) :
          (settledItems cat mode registry fresh element items).map copyItems =
            (settledItems cat mode registry false element items).map copyItems := by
        simp only [map_copyItems_settledItems, ih fresh]
      rcases v.form with hsolid | ⟨items, hsome⟩ | ⟨entries, hentries⟩ | ⟨mark, rfl⟩
      · rw [settled_of_solid hsolid, settled_of_solid hsolid]
      · cases v with
        | list mark vs => rw [copy_settled_list, copy_settled_list, hitems]
        | @tuple form mark vs => rw [settled_tuple_array, settled_tuple_array]
        | _ => simp [Value.items?] at hsome
      · simp [settled_entries_array hentries, Except.map]
      · exact copy_settled_reference fresh _ mark

end Settled

end TypedRecord
