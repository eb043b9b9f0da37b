import TypedRecord.Proofs.Record.Calls

/-!
# TypedRecord.Proofs.Record.StrictRuns

What holds of a strict record between calls.

A strict record is in one of two states. It is *committed*: it counts as valid, and its validator admits
its data. Or it is *vacant*: its initial data was rejected, and it holds nothing but side data. A write
that validates leads to a committed record from either, and no other call that comes to an end changes
the state (`committed_of_called`, `vacant_of_called`). So every call leads from state to state
(`rests_of_called`), and the constructor leads to the first one (`rests_of_make`).

Types and registries may change between the calls of a run, as long as they judge the record by the same
rules (`Catalog.SameRules`). Here a call does what it does to the data of the record as a tree; what its
objects have to do with other fields is added in `SharedRuns`, which has the theorem about runs.
-/

namespace TypedRecord

/-! ### Catalogs that judge alike -/

section Known

variable {known known' : Option (List String)}

theorem nameMismatch?_congr (h : ∀ name, knows known name = knows known' name) (name : String)
    (nullable : Bool) (v : Value) :
    nameMismatch? known name nullable v = nameMismatch? known' name nullable v := by
  have hmatches : nameMatches known name v = nameMatches known' name v := by
    simp only [nameMatches, h]
  unfold nameMismatch?
  rw [hmatches, h]

mutual

/-- Of the names that are known it matters only which they are. -/
theorem mismatch?_congr (h : ∀ name, knows known name = knows known' name) :
    (d : Descriptor) → (v : Value) → mismatch? known d v = mismatch? known' d v
  | .array element _, .list _ items | .array element _, .tuple _ items => by
      simp only [mismatch?, itemMismatch?_congr h element 0 items]
  | .named name nullable, v => by
      cases v with
      | atom mark a => cases a <;> simp [mismatch?, nameMismatch?_congr h]
      | _ => simp [mismatch?, nameMismatch?_congr h]
  | .array _ _, .atom _ a => by cases a <;> simp [mismatch?]
  | .array _ _, .reference _ | .array _ _, .buffer _ _ | .array _ _, .set _ | .array _ _, .dict _ _
  | .array _ _, .view _ _ | .array _ _, .record _ _ _ => by simp [mismatch?]

theorem itemMismatch?_congr (h : ∀ name, knows known name = knows known' name)
    (element : Descriptor) (position : Nat) : (items : List Value) →
      itemMismatch? known element position items = itemMismatch? known' element position items
  | [] => rfl
  | v :: vs => by
      simp only [itemMismatch?, mismatch?_congr h element v,
        itemMismatch?_congr h element (position + 1) vs]

end

end Known

namespace Catalog

/-- Two catalogs have the same rules for the records of a type: the same schema and reserved field,
and the same names in the registry of a validator. -/
structure SameRules (cat cat' : Catalog) (t : TypeId) (registry : Option RegistryId) : Prop where
  schema_eq : cat'.schemaOf t = cat.schemaOf t
  side_eq : cat'.sideKey t = cat.sideKey t
  knows_eq : ∀ name, knows (cat'.known registry) name = knows (cat.known registry) name

variable {cat cat' : Catalog} {t : TypeId}

theorem SameRules.symm {registry : Option RegistryId} (h : cat.SameRules cat' t registry) :
    cat'.SameRules cat t registry :=
  ⟨h.schema_eq.symm, h.side_eq.symm, fun name => (h.knows_eq name).symm⟩

theorem SameRules.visible_eq {registry : Option RegistryId} (h : cat.SameRules cat' t registry)
    (data : Entries Value) : cat'.visible t data = cat.visible t data := by
  rw [visible_eq_without, visible_eq_without, h.side_eq]

/-- By the same rules the same data is admitted. -/
theorem SameRules.admits {v : Validator} (h : cat.SameRules cat' t v.registry) {mode : Mode}
    {data : Entries Value} (hadmits : cat.Admits t v mode data) : cat'.Admits t v mode data := by
  rw [admits_iff] at hadmits ⊢
  rw [h.schema_eq, h.visible_eq]
  simp only [FieldInOrder] at hadmits ⊢
  simpa only [mismatch?_congr h.knows_eq] using hadmits

end Catalog

namespace Record

/-! ### The two states -/

/-- A strict record of a type with a validator. -/
structure IsStrict (t : TypeId) (v : Validator) (r : Record) : Prop where
  type_eq : r.header.type.id = t
  mode_eq : r.header.mode = .strict
  validator_eq : r.header.validator = v

/-- A record that counts as valid and holds data that its validator admits. -/
structure Committed (cat : Catalog) (t : TypeId) (v : Validator) (r : Record) : Prop where
  valid_eq : r.header.valid = true
  tainted_eq : r.header.tainted = false
  admits : cat.Admits t v .strict r.data

/-- A record that counts as invalid and holds nothing but side data. -/
structure Vacant (cat : Catalog) (t : TypeId) (r : Record) : Prop where
  valid_eq : r.header.valid = false
  tainted_eq : r.header.tainted = false
  hidden : cat.visible t r.data = []

variable {cat cat' : Catalog} {t : TypeId} {v : Validator} {r s : Record}

/-- No call changes that. -/
theorem IsStrict.of_called {call : Call} (hr : r.IsStrict t v) (h : Called cat call r s) :
    s.IsStrict t v := by
  obtain ⟨htype, hmode, hvalidator⟩ := h.role_eq
  exact ⟨by rw [htype, hr.type_eq], by rw [hmode, hr.mode_eq], by rw [hvalidator, hr.validator_eq]⟩

/-! ### One call -/

/-- A call that validates leads to a committed record. -/
theorem committed_of_validates {call : Call} (h : Called cat call r s) (hr : r.IsStrict t v)
    (hvalidates : call.validates cat r = true) : s.Committed cat t v := by
  unfold Call.validates at hvalidates
  cases h with
  | written act _ shown answered hwrite hanswered hwritten =>
      rw [hwrite] at hvalidates
      simp only [hanswered] at hvalidates
      cases hwritten with
      | stopped _ _ => cases hvalidates
      | unjudged _ _ _ => cases hvalidates
      | kept verdict _ hjudged hvalid =>
          refine ⟨rfl, rfl, verdict, ?_, hvalid⟩
          rw [judgement, Call.header_stores, hr.type_eq, hr.mode_eq, hr.validator_eq] at hjudged
          exact hjudged
      | undone verdict _ _ _ _ => cases shown <;> cases hvalidates
      | tainted _ _ _ _ _ => cases hvalidates
  | read _ hwrite _ => rw [hwrite] at hvalidates; cases hvalidates
  | beside _ hwrite _ => rw [hwrite] at hvalidates; cases hvalidates

/-- A strict record is the same after a call that comes to an end without validating, but for the
verdict, for values that are wrapped, and for side data. -/
theorem unchanged_of_called {call : Call} (h : Called cat call r s) (hr : r.IsStrict t v)
    {answer : Answer} (hresult : ((call.perform cat).run r).result = .ok answer)
    (hvalidates : call.validates cat r = false) :
    (∃ verdict, s = r.withVerdict verdict) ∨ Read cat r s ∨ r.Beside cat s := by
  cases h with
  | written act _ shown answered hwrite hanswered hwritten =>
      obtain ⟨valid, hvalid⟩ := (Call.perform_write hwrite r).2.mp ⟨answer, hresult⟩
      obtain rfl : valid = false := by simpa [Call.validates, hwrite, hvalid] using hvalidates
      rw [hvalid] at hanswered
      subst hanswered
      exact .inl (hwritten.eq_withVerdict hr.mode_eq)
  | read _ _ hread => exact .inr (.inl hread)
  | beside _ _ hbeside => exact .inr (.inr hbeside)

/-- A committed record stays committed. -/
theorem committed_of_called {call : Call} (h : Called cat call r s) (hr : r.IsStrict t v)
    (hdistinct : Entries.Distinct (cat.schemaOf t)) {answer : Answer}
    (hresult : ((call.perform cat).run r).result = .ok answer) (hcommitted : r.Committed cat t v) :
    s.Committed cat t v := by
  cases hvalidates : call.validates cat r with
  | true => exact committed_of_validates h hr hvalidates
  | false =>
      obtain ⟨hvalid, htainted, hadmits⟩ := hcommitted
      obtain rfl := hr.type_eq
      rcases unchanged_of_called h hr hresult hvalidates with ⟨verdict, rfl⟩ | hread | hbeside
      · exact ⟨hvalid, htainted, hadmits⟩
      · refine ⟨by rw [hread.header_eq, hvalid], by rw [hread.header_eq, htainted], ?_⟩
        exact Catalog.admits_of_read hread hdistinct hadmits
      · refine ⟨by rw [hbeside.header_eq, hvalid], by rw [hbeside.header_eq, htainted], ?_⟩
        obtain ⟨verdict, hverdict, hok⟩ := hadmits
        refine ⟨verdict, ?_, hok⟩
        rw [Catalog.validateAs, hbeside.visible_eq]
        exact hverdict

/-- A vacant record stays vacant unless a call validates. -/
theorem vacant_of_called {call : Call} (h : Called cat call r s) (hr : r.IsStrict t v)
    {answer : Answer} (hresult : ((call.perform cat).run r).result = .ok answer)
    (hvalidates : call.validates cat r = false) (hvacant : r.Vacant cat t) : s.Vacant cat t := by
  obtain ⟨hvalid, htainted, hhidden⟩ := hvacant
  obtain rfl := hr.type_eq
  rcases unchanged_of_called h hr hresult hvalidates with ⟨verdict, rfl⟩ | hread | hbeside
  · exact ⟨hvalid, htainted, hhidden⟩
  · refine ⟨by rw [hread.header_eq, hvalid], by rw [hread.header_eq, htainted], ?_⟩
    rw [Catalog.visible_eq_nil_iff] at hhidden ⊢
    rwa [hread.keys_eq]
  · exact ⟨by rw [hbeside.header_eq, hvalid], by rw [hbeside.header_eq, htainted], by
      rw [hbeside.visible_eq, hhidden]⟩

/-! ### The state -/

/-- The state of a strict record: committed or vacant. -/
def Rests (cat : Catalog) (t : TypeId) (v : Validator) (committed : Bool) (r : Record) : Prop :=
  if committed then r.Committed cat t v else r.Vacant cat t

/-- A call leads from state to state, and to a committed one where it validates. -/
theorem rests_of_called {call : Call} (h : Called cat call r s) (hr : r.IsStrict t v)
    (hdistinct : Entries.Distinct (cat.schemaOf t)) {answer : Answer}
    (hresult : ((call.perform cat).run r).result = .ok answer) {committed : Bool}
    (hrests : r.Rests cat t v committed) :
    s.Rests cat t v (committed || call.validates cat r) := by
  cases committed with
  | true => exact committed_of_called h hr hdistinct hresult hrests
  | false =>
      cases hvalidates : call.validates cat r with
      | true => exact committed_of_validates h hr hvalidates
      | false => exact vacant_of_called h hr hresult hvalidates hrests

/-- A state is one by the same rules. -/
theorem Rests.of_sameRules (h : cat.SameRules cat' t v.registry) {committed : Bool}
    (hrests : r.Rests cat t v committed) : r.Rests cat' t v committed := by
  cases committed with
  | true =>
      obtain ⟨hvalid, htainted, hadmits⟩ := hrests
      exact ⟨hvalid, htainted, h.admits hadmits⟩
  | false =>
      obtain ⟨hvalid, htainted, hhidden⟩ := hrests
      exact ⟨hvalid, htainted, by rw [h.visible_eq, hhidden]⟩

/-- A new strict record is committed or vacant, as the verdict on its data says. -/
theorem rests_of_make (hfields : cat.schemaOf t ≠ []) {data : Value} {validator : Option Validator}
    {registry : Option RegistryId} {sink : Sink} {verdict : Verdict}
    (hmake : (make cat t data .strict validator registry sink).answer = .ok (verdict, r)) :
    r.IsStrict t (cat.setupFor t validator registry sink).validator ∧
      r.Rests cat t (cat.setupFor t validator registry sink).validator verdict.valid := by
  simp only [make, Act.answer_bind, Act.answer_ofExcept] at hmake
  obtain ⟨entries, _, hmake⟩ := Act.bind_eq_ok.mp hmake
  obtain ⟨candidate, _, hjudged⟩ := Catalog.judged_of_construct hmake
  refine ⟨⟨by rw [hjudged.type_eq]; rfl, hjudged.mode_eq, hjudged.validator_eq⟩, ?_⟩
  have hvalid := hjudged.valid_eq
  have hdata := hjudged.data_eq
  cases hverdict : verdict.valid with
  | true =>
      rw [hverdict] at hvalid hdata
      exact ⟨hvalid, hjudged.tainted_eq, by
        rw [hdata]; exact hjudged.admits hfields hverdict⟩
  | false =>
      rw [hverdict] at hvalid hdata
      exact ⟨hvalid, hjudged.tainted_eq, by rw [hdata]; rfl⟩

end Record

end TypedRecord
