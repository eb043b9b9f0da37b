import TypedRecord.Record.Call
import TypedRecord.Proofs.Record.Writes

/-!
# TypedRecord.Proofs.Record.Likeness

Relations between records that no call looks behind.

What a write makes of a record hangs on two things beside its data: on its role, which decides how
incoming values are wrapped and whether a failing write is taken back, and on the judgement on it. A
`Record.Likeness` is a relation that fixes both and survives what validation enters into a record.
Writes that store alike and take back alike are tracked by it (`Likeness.write`).

A `Record.DataLikeness` fixes the data as well. It tracks every call there is
(`DataLikeness.perform`): whatever such a relation leaves open has no say in what calls do.
-/

namespace TypedRecord

namespace Record

/-- A relation under which records play one role and are judged alike, also after a verdict or the flags
that follow from it have been entered in both. -/
structure Likeness (cat : Catalog) (R : Record → Record → Prop) : Prop where
  role_eq : ∀ {r s : Record}, R r s → s.header.type = r.header.type ∧
    s.header.mode = r.header.mode ∧ s.header.registry = r.header.registry
  judgement_eq : ∀ {r s : Record}, R r s → judgement cat s = judgement cat r
  withVerdict : ∀ {r s : Record}, R r s → ∀ verdict,
    R (r.withVerdict verdict) (s.withVerdict verdict)
  asValid : ∀ {r s : Record}, R r s → R r.asValid s.asValid
  asTainted : ∀ {r s : Record}, R r s → R r.asTainted s.asTainted

/-- A likeness of records with the same data, whatever that data is. -/
structure DataLikeness (cat : Catalog) (R : Record → Record → Prop) : Prop
    extends Likeness cat R where
  data_eq : ∀ {r s : Record}, R r s → s.data = r.data
  withData : ∀ {r s : Record}, R r s → ∀ data : Entries Value,
    R { r with data := data } { s with data := data }

variable {cat : Catalog} {R : Record → Record → Prop} {r s : Record}

/-! ### Writes -/

namespace Likeness

/-- What comes into a field is wrapped for one as for the other. -/
theorem incoming?_eq (h : Likeness cat R) (hrs : R r s) (field : Key) (v : Value) :
    incoming? cat s.header field v = incoming? cat r.header field v := by
  obtain ⟨htype, hmode, hregistry⟩ := h.role_eq hrs
  exact incoming?_congr htype hmode hregistry field v

theorem revalidate (h : Likeness cat R) :
    Act.Tracks R (Record.revalidate cat) (Record.revalidate cat) := by
  intro r s hrs
  obtain ⟨herror, hok⟩ := run_revalidate cat r
  obtain ⟨herror', hok'⟩ := run_revalidate cat s
  rw [h.judgement_eq hrs] at herror' hok'
  cases hjudged : judgement cat r with
  | error failure =>
      obtain ⟨hstate, hresult⟩ := herror failure hjudged
      obtain ⟨hstate', hresult'⟩ := herror' failure hjudged
      rw [hstate, hstate', hresult, hresult']
      exact ⟨hrs, rfl⟩
  | ok verdict =>
      obtain ⟨hstate, hresult⟩ := hok verdict hjudged
      obtain ⟨hstate', hresult'⟩ := hok' verdict hjudged
      rw [hstate, hstate', hresult, hresult']
      have hjudgedAlike := h.withVerdict hrs verdict
      refine ⟨?_, rfl⟩
      split
      · exact h.asValid hjudgedAlike
      · exact hjudgedAlike

theorem taint (h : Likeness cat R) : Act.Tracks R Record.taint Record.taint :=
  .of_modify fun _ _ hrs => h.asTainted hrs

/-- The note about a write that was taken back goes to the sink of each, but answers nothing. -/
theorem tracks_noteRollback (message : String) (field : Option Key) :
    Act.Tracks R (noteRollback message field) (noteRollback message field) :=
  .get_bind fun _ _ _ => .of_deliver _ _ _ _

/-- Writes that store alike are tracked, if what they take back leaves records alike. -/
theorem write (h : Likeness cat R) {storing : Act Record Unit}
    (hstoring : Act.Tracks R storing storing) {back : Entries Value → Entries Value → Entries Value}
    (hback : ∀ {r s r' s' : Record}, R r s → R r' s' →
      R { r' with data := back r.data r'.data } { s' with data := back s.data s'.data })
    (shown : Except Failure String) (message : String → String) (field : Option Key) :
    Act.Tracks R (Record.write cat storing back shown message field)
      (Record.write cat storing back shown message field) := by
  unfold Record.write
  refine .get_bind fun r s hrs => .bind hstoring fun _ => .bind h.revalidate fun valid => ?_
  split
  · exact .of_pure _
  · refine .get_bind fun r' s' hafter => ?_
    rw [(h.role_eq hafter).2.1]
    split
    · exact .bind (.of_modify fun _ _ hstored => hback hrs hstored) fun _ =>
        .bind (.of_ofExcept _) fun words => .bind (tracks_noteRollback _ _) fun _ => .of_pure _
    · exact .bind h.taint fun _ => .of_pure _

end Likeness

/-! ### Records with the same data -/

namespace DataLikeness

/-- What is done to the data alone. -/
theorem modify (h : DataLikeness cat R) (f : Entries Value → Entries Value) :
    Act.Tracks R (modify fun r => { r with data := f r.data })
      (modify fun r => { r with data := f r.data }) := by
  refine .of_modify fun r s hrs => ?_
  rw [h.data_eq hrs]
  exact h.withData hrs _

theorem store (h : DataLikeness cat R) (field : Key) (v : Value) :
    Act.Tracks R (Record.store cat field v) (Record.store cat field v) := by
  unfold Record.store
  refine .get_bind fun r s hrs => ?_
  rw [h.incoming?_eq hrs]
  exact .bind (.of_lift rfl) fun replacement => h.modify (Entries.put field (replacement.getD v))

theorem storeAll (h : DataLikeness cat R) (fields : List (Key × Value)) :
    Act.Tracks R (Record.storeAll cat fields) (Record.storeAll cat fields) := by
  induction fields with
  | nil => exact .of_pure ()
  | cons e rest ih =>
      obtain ⟨field, v⟩ := e
      exact .bind (h.store field v) fun _ => ih

/-- Whatever is taken back, by the data before and after a write. -/
theorem back (h : DataLikeness cat R) (back : Entries Value → Entries Value → Entries Value)
    {r' s' : Record} (hrs : R r s) (hafter : R r' s') :
    R { r' with data := back r.data r'.data } { s' with data := back s.data s'.data } := by
  rw [h.data_eq hrs, h.data_eq hafter]
  exact h.withData hafter _

theorem set (h : DataLikeness cat R) (field : Key) (v : Value) :
    Act.Tracks R (Record.set cat field v) (Record.set cat field v) := by
  rw [set_eq_write]
  exact h.write (h.store field v) (fun hrs => h.back _ hrs) _ _ _

theorem update (h : DataLikeness cat R) (fields : Entries Value) :
    Act.Tracks R (Record.update cat fields) (Record.update cat fields) := by
  rw [update_eq_write]
  exact h.write (h.storeAll fields) (fun hrs => h.back _ hrs) _ _ _

/-! ### Reads -/

theorem get (h : DataLikeness cat R) (field : Key) (default : Value) :
    Act.Tracks R (Record.get cat field default) (Record.get cat field default) := by
  unfold Record.get
  refine .get_bind fun r s hrs => ?_
  rw [h.data_eq hrs]
  cases r.data.find? field with
  | none => exact .of_pure _
  | some v =>
      simp only [h.incoming?_eq hrs]
      refine .bind (.of_lift rfl) fun replacement => ?_
      cases replacement with
      | none => exact .of_pure _
      | some w => exact .bind (h.modify (Entries.put field w)) fun _ => .of_pure _

theorem getPresent (h : DataLikeness cat R) (field : Key) :
    Act.Tracks R (Record.getPresent cat field) (Record.getPresent cat field) := by
  unfold Record.getPresent
  refine .get_bind fun r s hrs => ?_
  rw [h.data_eq hrs]
  split
  · exact h.get field .nil
  · exact .of_throw _

/-! ### Side data -/

theorem fieldOf_eq (h : DataLikeness cat R) (hrs : R r s) :
    SideData.fieldOf cat s = SideData.fieldOf cat r := by
  simp only [SideData.fieldOf, (h.role_eq hrs).1]

theorem store?_eq (h : DataLikeness cat R) (hrs : R r s) (field : Key) :
    SideData.store? field s = SideData.store? field r := by
  simp only [SideData.store?, h.data_eq hrs]

theorem atOwner {α : Type} (h : DataLikeness cat R) (field owner : Key) (act : Act Value α) :
    Act.Tracks R (SideData.atOwner field owner act) (SideData.atOwner field owner act) := by
  intro r s hrs
  unfold Act.run SideData.atOwner
  rw [h.store?_eq hrs, h.data_eq hrs]
  cases SideData.store? field r with
  | none => exact ⟨hrs, rfl⟩
  | some store => exact ⟨h.withData hrs _, rfl⟩

theorem putStore (h : DataLikeness cat R) (field : Key) (mark : Mark) (entries : Entries Value) :
    Act.Tracks R (SideData.putStore field mark entries) (SideData.putStore field mark entries) :=
  h.modify (Entries.put field (.dict mark entries))

theorem ensure (h : DataLikeness cat R) (field : Key) (shown : String) :
    Act.Tracks R (SideData.ensure field shown) (SideData.ensure field shown) := by
  unfold SideData.ensure
  refine .get_bind fun r s hrs => ?_
  rw [h.store?_eq hrs, h.data_eq hrs]
  split
  · split
    · exact .bind (.of_notify _ _) fun _ => h.putStore field none []
    · exact h.putStore field none []
  · exact .of_pure _

theorem sidePut (h : DataLikeness cat R) (owner key v : Value) :
    Act.Tracks R (SideData.put cat owner key v) (SideData.put cat owner key v) := by
  unfold SideData.put
  refine .get_bind fun r s hrs => ?_
  rw [(h.role_eq hrs).1]
  refine .bind (h.ensure _ _) fun _ => .bind (.of_ofExcept _) fun k => .get_bind fun r' s' hafter => ?_
  rw [h.store?_eq hafter]
  split
  · split
    · exact .bind (h.putStore _ _ _) fun _ => h.atOwner _ _ _
    · exact h.atOwner _ _ _
  · exact h.atOwner _ _ _

theorem sideFind (h : DataLikeness cat R) (owner key default : Value) :
    Act.Tracks R (SideData.find cat owner key default) (SideData.find cat owner key default) := by
  unfold SideData.find
  refine .get_bind fun r s hrs => .get_bind fun r' s' hrs' => ?_
  rw [h.fieldOf_eq hrs, h.store?_eq hrs']
  split
  · exact .of_pure _
  · refine .bind (.of_ofExcept _) fun k => ?_
    split
    · exact h.atOwner _ _ _
    · exact .bind (.of_ofExcept _) fun _ => .of_pure _

theorem sideHas (h : DataLikeness cat R) (owner : Value) :
    Act.Tracks R (SideData.has cat owner) (SideData.has cat owner) := by
  unfold SideData.has
  refine .get_bind fun r s hrs => .get_bind fun r' s' hrs' => ?_
  rw [h.fieldOf_eq hrs, h.store?_eq hrs']
  split
  · exact .of_pure _
  · exact .bind (.of_ofExcept _) fun _ => .of_pure _

theorem sideAll (h : DataLikeness cat R) (owner : Value) :
    Act.Tracks R (SideData.all cat owner) (SideData.all cat owner) := by
  unfold SideData.all
  refine .get_bind fun r s hrs => .get_bind fun r' s' hrs' => ?_
  rw [h.fieldOf_eq hrs, h.store?_eq hrs']
  split
  · exact .of_pure _
  · refine .bind (.of_ofExcept _) fun k => ?_
    split
    · exact h.atOwner _ _ _
    · exact .of_pure _

theorem sideClear (h : DataLikeness cat R) (owner : Value) :
    Act.Tracks R (SideData.clear cat owner) (SideData.clear cat owner) := by
  unfold SideData.clear
  refine .get_bind fun r s hrs => .get_bind fun r' s' hrs' => ?_
  rw [h.fieldOf_eq hrs, h.store?_eq hrs']
  split
  · exact .of_pure _
  · refine .bind (.of_ofExcept _) fun rest => ?_
    split
    · exact h.modify (Entries.erase _)
    · exact h.putStore _ _ _

theorem sideOwners (h : DataLikeness cat R) (hrs : R r s) :
    SideData.owners cat s = SideData.owners cat r := by
  simp only [SideData.owners, h.fieldOf_eq hrs, h.store?_eq hrs]

/-- Every call gives one answer, or stops for one reason, and leaves records alike. -/
theorem perform (h : DataLikeness cat R) (call : Call) :
    Act.Tracks R (call.perform cat) (call.perform cat) := by
  cases call with
  | set field v => exact .bind (h.set field v) fun _ => .of_pure _
  | assign field v => exact .bind (h.set field v) fun _ => .of_pure _
  | update fields => exact .bind (h.update fields) fun _ => .of_pure _
  | get field default => exact .bind (h.get field default) fun _ => .of_pure _
  | getPresent field => exact .bind (h.getPresent field) fun _ => .of_pure _
  | sidePut owner key v => exact .bind (h.sidePut owner key v) fun _ => .of_pure _
  | sideFind owner key default => exact .bind (h.sideFind owner key default) fun _ => .of_pure _
  | sideHas owner => exact .bind (h.sideHas owner) fun _ => .of_pure _
  | sideAll owner => exact .bind (h.sideAll owner) fun _ => .of_pure _
  | sideClear owner => exact .bind (h.sideClear owner) fun _ => .of_pure _
  | sideOwners =>
      refine .get_bind fun r s hrs => ?_
      rw [h.sideOwners hrs]
      exact .of_pure _

end DataLikeness

end Record

end TypedRecord
