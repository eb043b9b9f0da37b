import TypedRecord.Proofs.Rewrapping
import TypedRecord.Proofs.Record.Calls
import TypedRecord.Proofs.Record.Contents

/-!
# TypedRecord.Proofs.Record.Settled

Records in which nothing is left to be wrapped.

As long as types and registries stay as they were when a record was made, every value in it has been
wrapped when it came in, and wrapping twice is wrapping once: the record is settled
(`isSettled_of_reached`). Reading such a record leaves it as it is (`Read.eq_of_settled`), so it takes a
schema that moves for a read to find something to do.

The steps are about one field at a time (`IsSettledAt`): writes and reads leave a field settled whatever
the other fields hold, so that a field that is written behind their back does not matter to the others.
-/

namespace TypedRecord

namespace Record

variable {cat : Catalog} {r s : Record}

/-! ### What comes in -/

theorem incoming?_same {field other : Key} (h : field.same other = true) (header : Header)
    (v : Value) : incoming? cat header field v = incoming? cat header other v := by
  simp only [incoming?, Catalog.wrappingDescriptor?, Entries.find?_congr h]

/-- What has come into a field stands there. -/
theorem incoming?_of_incoming {header : Header} {field : Key} {v : Value}
    {replacement : Option Value} (h : (incoming? cat header field v).answer = .ok replacement) :
    (incoming? cat header field (replacement.getD v)).answer = .ok none := by
  unfold incoming?
  rcases incoming?_cases h with ⟨hd, _⟩ | ⟨d, hd, hsettled⟩
  · rw [hd]
    rfl
  · rw [hd]
    exact answer_wrap?_of_settled hsettled

/-! ### Settled fields -/

/-- Nothing in the value of a field is left to be wrapped. -/
def IsSettledAt (cat : Catalog) (r : Record) (field : Key) : Prop :=
  ∀ v, r.data.find? field = some v → (incoming? cat r.header field v).answer = .ok none

variable {field other : Key}

theorem IsSettledAt.of_eq (hr : r.IsSettledAt cat field) (hdata : s.data = r.data)
    (htype : s.header.type = r.header.type) (hmode : s.header.mode = r.header.mode)
    (hregistry : s.header.registry = r.header.registry) : s.IsSettledAt cat field := by
  intro v hfind
  rw [incoming?_congr htype hmode hregistry]
  rw [hdata] at hfind
  exact hr v hfind

/-- What comes into a field is settled there, and the other fields stay as they are. -/
theorem IsSettledAt.put (hr : r.IsSettledAt cat other) {v : Value} {replacement : Option Value}
    (hincoming : (incoming? cat r.header field v).answer = .ok replacement) :
    Record.IsSettledAt cat { r with data := r.data.put field (replacement.getD v) } other := by
  intro w hfind
  cases hsame : field.same other with
  | true =>
      rw [← Entries.find?_congr hsame, Entries.find?_put_self] at hfind
      cases hfind
      rw [← incoming?_same hsame]
      exact incoming?_of_incoming hincoming
  | false =>
      rw [Entries.find?_put_of_ne hsame] at hfind
      exact hr w hfind

/-- What is stored is wrapped first. -/
theorem isSettledAt_store (hr : r.IsSettledAt cat other) (field : Key) (v : Value) :
    ((store cat field v).run r).state.IsSettledAt cat other := by
  rw [(run_store cat field v r).1]
  cases hincoming : (incoming? cat r.header field v).answer with
  | error failure => exact hr
  | ok replacement => exact hr.put hincoming

theorem isSettledAt_storeAll (hr : r.IsSettledAt cat other) (fields : List (Key × Value)) :
    ((storeAll cat fields).run r).state.IsSettledAt cat other := by
  induction fields generalizing r with
  | nil => exact hr
  | cons e rest ih =>
      obtain ⟨field, v⟩ := e
      have hfirst := isSettledAt_store hr field v
      rw [storeAll, Act.state_bind]
      cases ((store cat field v).run r).result with
      | error failure => exact hfirst
      | ok _ => exact ih hfirst

theorem isSettledAt_stores (hr : r.IsSettledAt cat field) (request : Call) :
    ((request.stores cat).run r).state.IsSettledAt cat field := by
  cases request with
  | set written v | assign written v => exact isSettledAt_store hr written v
  | update fields => exact isSettledAt_storeAll hr fields
  | _ => exact hr

/-- However a write ends, a field is settled if it was and storing left it so. -/
theorem Written.isSettledAt {stored : Outcome Record Unit} {shown : Except Failure String}
    {answered : Except Failure Bool} (h : Written cat r stored shown s answered)
    (hr : r.IsSettledAt cat field) (hstored : stored.state.IsSettledAt cat field) :
    s.IsSettledAt cat field := by
  cases h with
  | stopped _ _ => exact hstored
  | unjudged _ _ _ => exact hstored
  | kept _ _ _ _ => exact hstored.of_eq rfl rfl rfl rfl
  | undone _ _ _ _ _ => exact hr.of_eq rfl rfl rfl rfl
  | tainted _ _ _ _ _ => exact hstored.of_eq rfl rfl rfl rfl

/-- What a read puts into a field is settled there. -/
theorem Read.isSettledAt (h : Read cat r s) (hr : r.IsSettledAt cat field) :
    s.IsSettledAt cat field := by
  cases h with
  | same => exact hr
  | upgraded read v w _ hwrapped => exact hr.put hwrapped

/-- Reading a settled field leaves the record as it is, and answers what is there. -/
theorem run_get_of_isSettledAt (hr : r.IsSettledAt cat field) (default : Value) :
    ((get cat field default).run r).state = r ∧
      ((get cat field default).run r).result = .ok ((r.data.find? field).getD default) := by
  unfold get
  rw [Act.run_get_bind]
  cases hfind : r.data.find? field with
  | none => exact ⟨rfl, rfl⟩
  | some v =>
      have hlift : (Act.run (Act.lift (incoming? cat r.header field v)) r).result = .ok none :=
        hr v hfind
      rw [Act.run_bind_ok hlift]
      exact ⟨rfl, rfl⟩

theorem state_getPresent_of_isSettledAt (hr : r.IsSettledAt cat field) :
    ((getPresent cat field).run r).state = r := by
  unfold getPresent
  rw [Act.run_get_bind]
  cases r.data.has field with
  | true => exact (run_get_of_isSettledAt hr .nil).1
  | false => rfl

/-- What is done to side data happens in the reserved field, out of the way of every other. -/
theorem Beside.isSettledAt (h : r.Beside cat s) (hr : r.IsSettledAt cat field)
    (hside : field.same (cat.sideKey r.header.type.id) = false) : s.IsSettledAt cat field := by
  intro v hfind
  have hsame : s.data.find? field = r.data.find? field := by
    have hvisible := congrArg (Entries.find? field) h.visible_eq
    rw [Catalog.find?_visible, Catalog.find?_visible] at hvisible
    simpa [hside] using hvisible
  rw [hsame] at hfind
  rw [h.header_eq]
  exact hr v hfind

/-- A settled field is settled after every call that comes to it wrapped, and so after every call at all
if it is not the reserved one. -/
theorem isSettledAt_perform (hr : r.IsSettledAt cat field) {request : Call}
    (hwrapped : request.onFields = true ∨ field.same (cat.sideKey r.header.type.id) = false) :
    ((request.perform cat).run r).state.IsSettledAt cat field := by
  cases called cat request r with
  | written act _ shown answered _ _ hwritten =>
      exact hwritten.isSettledAt hr (isSettledAt_stores hr request)
  | read _ _ hread => exact hread.isSettledAt hr
  | beside _ hwrite hbeside =>
      rcases hwrapped with hfields | hside
      · have hread := Call.isRead_of_write?_eq_none hwrite hfields
        exact (Call.read_of_isRead hread r).isSettledAt hr
      · exact hbeside.isSettledAt hr hside

/-! ### Settled records -/

/-- Nothing in a record is left to be wrapped. -/
def IsSettled (cat : Catalog) (r : Record) : Prop :=
  ∀ field v, r.data.find? field = some v → (incoming? cat r.header field v).answer = .ok none

/-- Reading a settled record leaves it as it is. -/
theorem Read.eq_of_settled (h : Read cat r s) (hr : r.IsSettled cat) : s = r := by
  cases h with
  | same => rfl
  | upgraded field v w hfind hwrapped =>
      rw [hr field v hfind] at hwrapped
      cases hwrapped

/-- A settled record is settled after every call on its fields. -/
theorem isSettled_perform (hr : r.IsSettled cat) {request : Call}
    (hfields : request.onFields = true) : ((request.perform cat).run r).state.IsSettled cat :=
  fun field => isSettledAt_perform (hr field) (.inl hfields)

/-- A record that has just been made is settled. -/
theorem isSettled_make {t : TypeId} {data : Value} {mode : Mode} {validator : Option Validator}
    {registry : Option RegistryId} {sink : Sink} {verdict : Verdict}
    (h : (make cat t data mode validator registry sink).answer = .ok (verdict, r)) :
    r.IsSettled cat := by
  simp only [make, Act.answer_bind, Act.answer_ofExcept] at h
  obtain ⟨entries, _, h⟩ := Act.bind_eq_ok.mp h
  obtain ⟨candidate, hcandidate, hjudged⟩ := Catalog.judged_of_construct h
  intro field v hfind
  rw [hjudged.data_eq] at hfind
  cases hvalid : verdict.valid with
  | false =>
      rw [hvalid] at hfind
      cases hfind
  | true =>
      rw [hvalid] at hfind
      obtain ⟨k, hmem, hsame⟩ := Entries.exists_mem_of_find? hfind
      rw [← incoming?_same hsame, incoming?, hjudged.type_eq, hjudged.mode_eq, hjudged.registry_eq]
      rcases answer_wrap?_of_prepare hcandidate _ hmem with hd | ⟨d, hd, hstands⟩
      · rw [show cat.wrappingDescriptor? (cat.typeName t).id k = .ok none from hd]
        rfl
      · rw [show cat.wrappingDescriptor? (cat.typeName t).id k = .ok (some d) from hd]
        exact hstands

/-- A record that is reached by writing alone is settled. -/
theorem isSettled_of_reached {handed : Value → Prop} (h : Reached cat handed r) :
    r.IsSettled cat := by
  induction h with
  | made _ h => exact isSettled_make h
  | set _ field _ ih =>
      exact fun other =>
        (written_set cat field _ _).isSettledAt (ih other) (isSettledAt_store (ih other) field _)
  | update _ _ ih =>
      exact fun other =>
        (written_update cat _ _).isSettledAt (ih other) (isSettledAt_storeAll (ih other) _)

end Record

end TypedRecord
