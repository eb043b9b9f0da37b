import TypedRecord.Record
import TypedRecord.Proofs.Wrapping

/-!
# TypedRecord.Proofs.Record.Reads

What reading a field does to a record.

A read leaves the record as it is, or puts a wrapped value in the place of the one that it found
(`Read`). Where a validator admits the data before, it admits the data after
(`Catalog.admits_of_read`): the fields are the same, and a value that matched still matches.
-/

namespace TypedRecord

namespace Record

/-- What reading can make of a record. -/
inductive Read (cat : Catalog) (r : Record) : Record → Prop
  | same : Read cat r r
  /-- The value of a field is wrapped from now on. -/
  | upgraded (field : Key) (v w : Value) (hfind : r.data.find? field = some v)
      (hwrapped : (incoming? cat r.header field v).answer = .ok (some w)) :
      Read cat r { r with data := r.data.put field w }

theorem read_get (cat : Catalog) (field : Key) (default : Value) (r : Record) :
    Read cat r ((get cat field default).run r).state := by
  unfold get
  rw [Act.run_get_bind]
  cases hfind : r.data.find? field with
  | none => exact .same
  | some v =>
      have hlift : (Act.run (Act.lift (incoming? cat r.header field v)) r).result =
          (incoming? cat r.header field v).answer := rfl
      cases hwrapped : (incoming? cat r.header field v).answer with
      | error failure =>
          rw [hwrapped] at hlift
          rw [Act.run_bind_error hlift]
          exact .same
      | ok replacement =>
          rw [hwrapped] at hlift
          rw [Act.run_bind_ok hlift]
          cases replacement with
          | none => exact .same
          | some w => exact .upgraded field v w hfind hwrapped

theorem read_getPresent (cat : Catalog) (field : Key) (r : Record) :
    Read cat r ((getPresent cat field).run r).state := by
  unfold getPresent
  rw [Act.run_get_bind]
  cases r.data.has field with
  | true => exact read_get cat field .nil r
  | false => exact .same

/-- Nothing but data changes. -/
theorem Read.header_eq {cat : Catalog} {r s : Record} (h : Read cat r s) : s.header = r.header := by
  cases h <;> rfl

/-- The fields stay, in their order. -/
theorem Read.keys_eq {cat : Catalog} {r s : Record} (h : Read cat r s) :
    s.data.keys = r.data.keys := by
  cases h with
  | same => rfl
  | upgraded field v w hfind _ => exact Entries.keys_put_of_has (by simp [Entries.has, hfind]) w

end Record

namespace Catalog

variable {cat : Catalog} {t : TypeId}

/-- What comes into a declared field is wrapped by the descriptor that it is judged by. -/
theorem incoming?_eq_some {header : Header} {field : Key} {v w : Value}
    (h : (Record.incoming? cat header field v).answer = .ok (some w)) :
    ∃ d declared, (cat.schemaOf header.type.id).find? field = some declared ∧
      declared.descriptor = .ok d ∧
      settled cat header.mode header.registry false d v = .ok w := by
  unfold Record.incoming? at h
  split at h
  · next d hd =>
      obtain ⟨declared, hfind, hread⟩ := wrappingDescriptor?_eq_some hd
      exact ⟨d, declared, hfind, Value.descriptor_of_readDescriptor hread, by
        simp [settled, h, Except.map, settle]⟩
  · cases h
  · cases h

/-- A field that was in order is in order after its value was wrapped, and so are the others. -/
theorem fieldInOrder_of_read {r s : Record} (hread : Record.Read cat r s)
    (hdistinct : Entries.Distinct (cat.schemaOf r.header.type.id))
    {known : Option (List String)} {f : Key × Value} (hf : f ∈ cat.schemaOf r.header.type.id)
    (h : FieldInOrder known (cat.visible r.header.type.id r.data) f.1 f.2) :
    FieldInOrder known (cat.visible r.header.type.id s.data) f.1 f.2 := by
  cases hread with
  | same => exact h
  | upgraded field v w hfind hwrapped =>
      obtain ⟨d, hd, hfield⟩ := h
      refine ⟨d, hd, ?_⟩
      rw [find?_visible] at hfield ⊢
      by_cases hside : f.1.same (cat.sideKey r.header.type.id) = true
      · rw [if_pos hside] at hfield ⊢
        exact hfield
      · rw [if_neg hside] at hfield ⊢
        -- Only in the field that was read there is another value than before.
        cases hsame : field.same f.1 with
        | false =>
            rw [Entries.find?_put_of_ne hsame]
            exact hfield
        | true =>
            rw [← Entries.find?_congr hsame, Entries.find?_put_self]
            rw [← Entries.find?_congr hsame, hfind] at hfield
            obtain ⟨d', declared, hdeclared, hd', hsettled⟩ := incoming?_eq_some hwrapped
            rw [Key.same_comm] at hsame
            rw [hdistinct.find?_of_mem hf hsame] at hdeclared
            obtain rfl := Option.some.inj hdeclared
            obtain rfl : d' = d := Except.ok.inj (hd'.symm.trans hd)
            exact mismatch?_settled hfield hsettled

/-- A validator that admits the data of a record admits it after a read. -/
theorem admits_of_read {r s : Record} (hread : Record.Read cat r s)
    (hdistinct : Entries.Distinct (cat.schemaOf r.header.type.id)) {v : Validator} {mode : Mode}
    (h : cat.Admits r.header.type.id v mode r.data) :
    cat.Admits r.header.type.id v mode s.data := by
  rw [admits_iff] at h ⊢
  rcases h with hdisabled | ⟨hschema, hfields, hstrict⟩
  · exact .inl hdisabled
  · refine .inr ⟨hschema, fun f hf => fieldInOrder_of_read hread hdistinct hf (hfields f hf),
      fun hmode => ?_⟩
    rw [visible_declared_iff, hread.keys_eq, ← visible_declared_iff]
    exact hstrict hmode

end Catalog

end TypedRecord
