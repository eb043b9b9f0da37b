import TypedRecord.Record.SideData
import TypedRecord.Proofs.Admission

/-!
# TypedRecord.Proofs.Record.SideData

Operations on side data stay beside what is judged.

They work on the reserved field alone, whatever it holds, and the reserved field is out of sight of
validation. `Record.Beside` relates records that differ there only, and every operation on side data
goes from a record to one beside it, also where it fails.
-/

namespace TypedRecord

/-- A record that differs from another in the reserved field at most. -/
structure Record.Beside (cat : Catalog) (r s : Record) : Prop where
  header_eq : s.header = r.header
  visible_eq : cat.visible r.header.type.id s.data = cat.visible r.header.type.id r.data

theorem Record.Beside.refl (cat : Catalog) (r : Record) : r.Beside cat r := ⟨rfl, rfl⟩

namespace SideData

variable {cat : Catalog} {r s : Record} {α : Type}

theorem fieldOf_of_beside (h : r.Beside cat s) : fieldOf cat s = cat.sideKey r.header.type.id := by
  rw [fieldOf, h.header_eq]
  rfl

/-- Whatever is put into the reserved field. -/
theorem beside_put (h : r.Beside cat s) (v : Value) :
    r.Beside cat { s with data := s.data.put (cat.sideKey r.header.type.id) v } := by
  refine ⟨h.header_eq, ?_⟩
  rw [← h.visible_eq]
  exact Entries.without_put_same (Key.same_refl _) v s.data

theorem beside_erase (h : r.Beside cat s) :
    r.Beside cat { s with data := s.data.erase (cat.sideKey r.header.type.id) } := by
  refine ⟨h.header_eq, ?_⟩
  rw [← h.visible_eq]
  exact Entries.without_erase_same (Key.same_refl _) s.data

theorem maintains_putStore (mark : Mark) (entries : Entries Value) :
    Act.Maintains (r.Beside cat) (putStore (cat.sideKey r.header.type.id) mark entries) :=
  .of_modify fun _ h => beside_put h _

/-- What is done with the entry of an owner happens inside the reserved field. -/
theorem maintains_atOwner (owner : Key) (act : Act Value α) :
    Act.Maintains (r.Beside cat) (atOwner (cat.sideKey r.header.type.id) owner act) := by
  intro s h
  unfold Act.run atOwner
  cases store? (cat.sideKey r.header.type.id) s with
  | none => exact h
  | some store => exact beside_put h _

theorem maintains_ensure (shown : String) :
    Act.Maintains (r.Beside cat) (ensure (cat.sideKey r.header.type.id) shown) := by
  unfold ensure
  refine .get_bind fun s _ => ?_
  split
  · split
    · exact .bind (.of_notify _) fun _ => maintains_putStore none []
    · exact maintains_putStore none []
  · exact .of_pure ()

theorem maintains_put (owner key v : Value) :
    Act.Maintains (r.Beside cat) (put cat owner key v) := by
  unfold put
  refine .get_bind fun s hs => ?_
  rw [hs.header_eq]
  refine .bind (maintains_ensure _) fun _ => .bind (.of_ofExcept _) fun k => .get_bind fun s' _ => ?_
  split
  · split
    · exact .bind (maintains_putStore _ _) fun _ => maintains_atOwner _ _
    · exact maintains_atOwner _ _
  · exact maintains_atOwner _ _

theorem maintains_find (owner key default : Value) :
    Act.Maintains (r.Beside cat) (find cat owner key default) := by
  unfold find
  refine .get_bind fun s hs => ?_
  rw [fieldOf_of_beside hs]
  refine .get_bind fun s' _ => ?_
  split
  · exact .of_pure _
  · refine .bind (.of_ofExcept _) fun k => ?_
    split
    · exact maintains_atOwner _ _
    · exact .bind (.of_ofExcept _) fun _ => .of_pure _

theorem maintains_has (owner : Value) : Act.Maintains (r.Beside cat) (has cat owner) := by
  unfold has
  refine .get_bind fun s _ => .get_bind fun s' _ => ?_
  split
  · exact .of_pure _
  · exact .bind (.of_ofExcept _) fun _ => .of_pure _

theorem maintains_all (owner : Value) : Act.Maintains (r.Beside cat) (all cat owner) := by
  unfold all
  refine .get_bind fun s hs => ?_
  rw [fieldOf_of_beside hs]
  refine .get_bind fun s' _ => ?_
  split
  · exact .of_pure _
  · refine .bind (.of_ofExcept _) fun k => ?_
    split
    · exact maintains_atOwner _ _
    · exact .of_pure _

theorem maintains_clear (owner : Value) : Act.Maintains (r.Beside cat) (clear cat owner) := by
  unfold clear
  refine .get_bind fun s hs => ?_
  rw [fieldOf_of_beside hs]
  refine .get_bind fun s' _ => ?_
  split
  · exact .of_pure _
  · refine .bind (.of_ofExcept _) fun rest => ?_
    split
    · exact .of_modify fun _ h => beside_erase h
    · exact maintains_putStore _ _

end SideData

end TypedRecord
