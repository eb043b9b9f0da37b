import TypedRecord.Proofs.Record.SideRuns

/-!
# TypedRecord.Proofs.Record.SideEntries

Side data where the reserved field holds whatever it happens to hold.

The field is never validated, so anything may stand in it, and anything under an owner in the mapping
that it holds. A field without a writable mapping counts as empty, and storing replaces what it holds.
What stands under an owner is taken as it is (`side_data_by_entry`): a mapping is read, and written if it can
be, a record is read and written as a record, and anything else has no such operations and fails
(`not_read_of_any_entry`).
-/

namespace TypedRecord

namespace SideData

variable {cat : Catalog} {field o k : Key} {owner key w : Value} {r : Record} {α : Type}

/-! ### Working on an entry -/

theorem exists_store_of_entry (h : standing? field o r = some w) :
    ∃ mark entries, store? field r = some (mark, entries) ∧ entries.find? o = some w := by
  obtain ⟨⟨mark, entries⟩, hstore, hfind⟩ := Option.bind_eq_some_iff.mp h
  exact ⟨mark, entries, hstore, hfind⟩

/-- What stands under an owner in a mapping that was put into the field. -/
theorem standing?_putStore (field o : Key) (mark : Mark) (entries : Entries Value) (r : Record) :
    standing? field o { r with data := r.data.put field (.dict mark entries) } = entries.find? o := by
  simp [standing?, store?]

/-- An operation at an owner is run on the owner's entry, and leaves its outcome there. -/
theorem run_atOwner (h : standing? field o r = some w) (act : Act Value α) :
    ((atOwner field o act).run r).result = (act.run w).result ∧
      ((atOwner field o act).run r).notices = (act.run w).notices ∧
      ((atOwner field o act).run r).state.header = r.header ∧
      standing? field o ((atOwner field o act).run r).state = some (act.run w).state := by
  obtain ⟨mark, entries, hstore, hfind⟩ := exists_store_of_entry h
  unfold atOwner
  simp only [Act.run, hstore, hfind, Option.getD_some, true_and]
  rw [standing?_putStore, Entries.find?_put_self]

theorem run_find_of_entry (h : standing? (fieldOf cat r) o r = some w)
    (howner : owner.toKey? = some o) (key default : Value) :
    (find cat owner key default).run r =
      (atOwner (fieldOf cat r) o (lookUp cat key default)).run r := by
  obtain ⟨mark, entries, hstore, hfind⟩ := exists_store_of_entry h
  unfold find
  rw [Act.run_get_bind, Act.run_get_bind, hstore]
  dsimp only
  rw [Value.asKey_eq howner, Act.run_ofExcept_bind, Entries.has, hfind]
  rfl

theorem run_all_of_entry (h : standing? (fieldOf cat r) o r = some w)
    (howner : owner.toKey? = some o) :
    (all cat owner).run r = (atOwner (fieldOf cat r) o (contents cat)).run r := by
  obtain ⟨mark, entries, hstore, hfind⟩ := exists_store_of_entry h
  unfold all
  rw [Act.run_get_bind, Act.run_get_bind, hstore]
  dsimp only
  rw [Value.asKey_eq howner, Act.run_ofExcept_bind, Entries.has, hfind]
  rfl

theorem run_ensure_of_store (h : (store? field r).isSome = true) (shown : String) :
    (ensure field shown).run r = ⟨r, [], .ok ()⟩ := by
  unfold ensure
  rw [Act.run_get_bind, ← Option.not_isSome, h]
  rfl

theorem run_put_of_entry (h : standing? (fieldOf cat r) o r = some w)
    (howner : owner.toKey? = some o) (key v : Value) :
    (put cat owner key v).run r = (atOwner (fieldOf cat r) o (assign cat key v)).run r := by
  obtain ⟨mark, entries, hstore, hfind⟩ := exists_store_of_entry h
  have hfield : Key.str (cat.typeAt r.header.type.id).sideField = fieldOf cat r := rfl
  have hensure := run_ensure_of_store (by rw [hstore]; rfl) (cat.typeAt r.header.type.id).sideField
  have hhas : entries.has o = true := by rw [Entries.has, hfind, Option.isSome_some]
  unfold put
  rw [Act.run_get_bind]
  dsimp only
  rw [hfield, Act.run_bind_ok (congrArg Outcome.result hensure), hensure, Value.asKey_eq howner,
    Act.run_ofExcept_bind, Act.run_get_bind, hstore]
  simp only [hhas, Bool.not_true, Bool.false_eq_true, if_false]
  rfl

section Serves

variable (cat : Catalog) (owner key : Value) (k : Key) (r : Record)

end Serves

end SideData

end TypedRecord
