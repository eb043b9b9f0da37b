import TypedRecord.Proofs.Acceptance

/-!
# TypedRecord.Proofs.ValidateData

Judging data without building a record of it.

`validateData` and `Record.make` go through the same stages, copying, wrapping and validating, but
each has its own way to a registry and a validator, and they differ about types without fields. Once
they wrap through one registry (`answer_validateData`), the verdict on data is that on the record
(`validateData_eq_make`); where there are no fields, a record is made of anything, and no data is
valid. A validator may be bound to another registry than the type: data is then wrapped through the
validator's, as for a record that is made with that registry (`validateData_eq_make_within`).
-/

namespace TypedRecord

namespace Catalog

variable {cat : Catalog} {t : TypeId} {data : Value} {es : Entries Value} {mode : Mode}
  {validator : Option Validator}

/-- The validator that judges data, given one or none. -/
def judging (cat : Catalog) (t : TypeId) (validator : Option Validator) : Validator :=
  validator.getD { registry := cat.registryOf t }

/-- A validation answers alike for validators that know the same names, show as much and are both
enabled or both not. -/
theorem answer_validateAs_congr {v w : Validator}
    (hknown : cat.known v.registry = cat.known w.registry) (hexcerpt : v.excerpt = w.excerpt)
    (henabled : v.enabled = w.enabled) (candidate : Entries Value) :
    (cat.validateAs t v mode candidate).answer = (cat.validateAs t w mode candidate).answer := by
  simp only [validateAs, answer_validate, hknown, hexcerpt, henabled]

/-- A record's own validator judges as the one that data is judged by. -/
theorem answer_validateAs_setupFor (sink : Sink) (candidate : Entries Value) :
    (cat.validateAs t (cat.setupFor t validator none sink).validator mode candidate).answer =
      (cat.validateAs t (cat.judging t validator) mode candidate).answer := by
  cases validator with
  | none =>
      have hknown : cat.known (cat.setupFor t none none sink).validator.registry =
          cat.known (cat.judging t none).registry := by simp [setupFor, judging]
      exact answer_validateAs_congr hknown rfl rfl candidate
  | some v => rfl

/-- Data is judged by what wrapping makes of it. -/
theorem answer_validateData (hdata : data.entries? = some es) :
    (cat.validateData t data mode validator false).answer =
      copyable es >>= fun _ =>
        (prepare cat mode ((cat.judging t validator).registry.or (cat.registryOf t)) t es).answer >>=
          fun candidate => (cat.validateAs t (cat.judging t validator) mode candidate).answer := by
  simp only [validateData, hdata, Act.answer_bind, Act.answer_ofExcept]
  rfl

/-- A validator that is not bound to a registry of its own does not change through which registry data
is wrapped. -/
theorem registry_judging
    (hregistry : ∀ v ∈ validator, v.registry = none ∨ v.registry = cat.registryOf t) (sink : Sink) :
    (cat.judging t validator).registry.or (cat.registryOf t) =
      (cat.setupFor t validator none sink).registry := by
  cases validator with
  | none => simp [judging, setupFor]
  | some v => rcases hregistry v rfl with h | h <;> simp [judging, setupFor, h]

/-- Without fields the answer to making a record is that to preparing its data, and the record is
valid. -/
theorem answer_construct_of_no_fields (h : cat.schemaOf t = []) (setup : Setup) :
    (cat.construct t mode setup es).answer =
      copyable es >>= fun _ => (prepare cat mode setup.registry t es).answer >>= fun candidate =>
        .ok (.success, ⟨{ (cat.blank t mode setup).header with valid := true }, candidate⟩) := by
  simp only [construct, judge, h, if_true, Act.answer_bind, Act.answer_ofExcept, Act.answer_pure]

/-- An enabled validator admits no data where there are no fields. -/
theorem answer_validateAs_of_no_fields {v : Validator} (henabled : v.enabled = true)
    (h : cat.schemaOf t = []) (candidate : Entries Value) :
    (cat.validateAs t v mode candidate).answer = .ok ⟨[emptySchemaIssue]⟩ := by
  simp [validateAs, answer_validate, henabled, findings, h]

/-- What is validated by a validator that is not enabled is valid. -/
theorem answer_validateAs_of_disabled {v : Validator} (h : v.enabled = false)
    (candidate : Entries Value) :
    (cat.validateAs t v mode candidate).answer = .ok .success := by
  simp [validateAs, answer_validate, h]

/-- The verdict on a record that is made of some data is the verdict of its validator on the
candidate, if there are fields or nothing is looked at. -/
theorem answer_construct_verdict {setup : Setup}
    (h : cat.schemaOf t ≠ [] ∨ setup.validator.enabled = false) :
    (cat.construct t mode setup es).answer.map Prod.fst =
      copyable es >>= fun _ => (prepare cat mode setup.registry t es).answer >>= fun candidate =>
        (cat.validateAs t setup.validator mode candidate).answer := by
  have hjudge (candidate : Entries Value) :
      (cat.judge t mode setup candidate).answer.map Prod.fst =
        (cat.validateAs t setup.validator mode candidate).answer := by
    by_cases hschema : cat.schemaOf t = []
    · rcases h with hfields | hdisabled
      · exact absurd hschema hfields
      · rw [answer_validateAs_of_disabled hdisabled]
        simp [judge, hschema, Except.map]
    · rw [answer_judge hschema]
      cases (cat.validateAs t setup.validator mode candidate).answer <;> rfl
  simp only [construct, Act.answer_bind, Act.answer_ofExcept, ← hjudge]
  cases copyable es with
  | error failure => rfl
  | ok _ => cases (prepare cat mode setup.registry t es).answer <;> rfl

/-- An enabled validator reports the empty schema wherever there are no fields, on all that a record
could be made of. -/
theorem answer_construct_emptySchema {setup : Setup} {v : Validator} (henabled : v.enabled = true)
    (h : cat.schemaOf t = []) :
    (copyable es >>= fun _ => (prepare cat mode setup.registry t es).answer >>= fun candidate =>
        (cat.validateAs t v mode candidate).answer) =
      (cat.construct t mode setup es).answer.map fun _ => ⟨[emptySchemaIssue]⟩ := by
  simp only [answer_construct_of_no_fields h, answer_validateAs_of_no_fields henabled h]
  cases copyable es with
  | error failure => rfl
  | ok _ => cases (prepare cat mode setup.registry t es).answer <;> rfl

/-- Data is judged as the record that would be made of it, given a validator that is bound to the
registry of the type or to none: there is the same verdict or the same failure. Only where the type
has no fields and the validator is enabled the two differ: a record is made of everything that can be
prepared, and the data is reported for the empty schema. -/
theorem validateData_eq_make (hdata : data.entries? = some es)
    (hregistry : ∀ v ∈ validator, v.registry = none ∨ v.registry = cat.registryOf t) (sink : Sink) :
    (cat.schemaOf t ≠ [] ∨ (∃ v ∈ validator, v.enabled = false) →
      (cat.validateData t data mode validator false).answer =
        (Record.make cat t data mode validator none sink).answer.map Prod.fst) ∧
    (cat.schemaOf t = [] → (∀ v ∈ validator, v.enabled = true) →
      (cat.validateData t data mode validator false).answer =
          ((Record.make cat t data mode validator none sink).answer.map fun _ =>
            ⟨[emptySchemaIssue]⟩) ∧
        ∀ verdict r, (Record.make cat t data mode validator none sink).answer = .ok (verdict, r) →
          verdict = .success ∧ r.header.valid = true) := by
  rw [answer_validateData hdata, answer_make hdata, registry_judging hregistry sink]
  constructor
  · intro h
    rw [answer_construct_verdict ?_]
    · simp only [answer_validateAs_setupFor]
    · refine h.imp id ?_
      rintro ⟨v, rfl, hdisabled⟩
      exact hdisabled
  · intro hschema henabled
    have hjudging : (cat.judging t validator).enabled = true := by
      cases validator with
      | none => rfl
      | some v => exact henabled v rfl
    constructor
    · exact answer_construct_emptySchema hjudging hschema
    · intro verdict r h
      rw [answer_construct_of_no_fields hschema] at h
      obtain ⟨_, _, h⟩ := Act.bind_eq_ok.mp h
      obtain ⟨candidate, _, h⟩ := Act.bind_eq_ok.mp h
      cases h
      exact ⟨rfl, rfl⟩

/-- A note about a topic is judged by a validator that knows the registry of notes as it is judged when
it is made. -/
theorem validateData_of_note :
    (topicsAndNotes.validateData 2
        (.dict none [(.str "text", .str "N"), (.str "about", .dict none (topicEntries (.bool true)))])
        .strict (some { registry := some 0 }) false).answer =
      (Record.make topicsAndNotes 2
        (.dict none [(.str "text", .str "N"), (.str "about", .dict none (topicEntries (.bool true)))])
        .strict (some { registry := some 0 }) none .none).answer.map Prod.fst := by
  have hregistry : ∀ v ∈ (some { registry := some 0 } : Option Validator),
      v.registry = none ∨ v.registry = topicsAndNotes.registryOf 2 := by
    rintro v ⟨⟩
    simp [registryOf, typeAt, topicsAndNotes]
  exact (@validateData_eq_make topicsAndNotes 2 _ _ .strict _ rfl hregistry .none).1
    (.inl (by simp [schemaOf, typeAt, topicsAndNotes, RecordType.effectiveSchema]))

/-- Given any validator, whatever registry it is bound to, data is judged as the record that would be
made of it with that validator and with the validator's registry, again but for the empty schema. -/
theorem validateData_eq_make_within (hdata : data.entries? = some es) (v : Validator) (sink : Sink) :
    (cat.schemaOf t ≠ [] ∨ v.enabled = false →
      (cat.validateData t data mode (some v) false).answer =
        (Record.make cat t data mode (some v) v.registry sink).answer.map Prod.fst) ∧
    (cat.schemaOf t = [] → v.enabled = true →
      (cat.validateData t data mode (some v) false).answer =
        (Record.make cat t data mode (some v) v.registry sink).answer.map fun _ =>
          ⟨[emptySchemaIssue]⟩) := by
  have hjudging : cat.judging t (some v) = v := rfl
  have hregistry : v.registry.or (cat.registryOf t) =
      (cat.setupFor t (some v) v.registry sink).registry := rfl
  rw [answer_validateData hdata, answer_make hdata, hjudging, hregistry]
  exact ⟨fun h => (answer_construct_verdict h).symm,
    fun hschema henabled => answer_construct_emptySchema henabled hschema⟩

/-- A validator that is not enabled passes whatever can be prepared, one failure or all asked for. -/
theorem validateData_of_disabled (hdata : data.entries? = some es) {v : Validator}
    (h : v.enabled = false) (exhaustive : Bool) :
    (cat.validateData t data mode (some v) exhaustive).answer =
      copyable es >>= fun _ =>
        (prepare cat mode (v.registry.or (cat.registryOf t)) t es).answer.map fun _ => .success := by
  simp only [validateData, hdata, Option.getD_some, validate, collect, h, Act.answer_bind,
    Act.answer_ofExcept, Act.ok_bind]
  cases exhaustive <;> rfl

/-- A record of the type without fields is made of no data, and no data is not valid for it. -/
theorem not_validateData_of_no_fields :
    ∃ verdict r judged,
      (Record.make {} 0 (.dict none []) .loose none none .none).answer = .ok (verdict, r) ∧
      ((Catalog.validateData {} 0 (.dict none []) .loose none false).answer = .ok judged) ∧
      verdict.valid = true ∧ judged.valid = false := by
  refine ⟨_, _, ⟨[emptySchemaIssue]⟩, rfl, rfl, rfl, rfl⟩

end Catalog

end TypedRecord
