import TypedRecord.Proofs.Reportable
import TypedRecord.Proofs.ValidateData

/-!
# TypedRecord.Proofs.SideField

The reserved field has no say in what is made of data.

Validation looks at data without the reserved field, so a verdict cannot depend on it. But the field is
copied and wrapped like every other, and that may fail: an object that holds itself has no end, and where
the schema declares the field as a reference, a record is built in it, and reporting on that record may
fail. `Catalog.SideEnds` says that neither happens. Where it holds, data is judged, and records are made of
it, as if the field were not there (`answer_construct_bare`, `answer_validateData_bare`); where it does not
hold, nothing is made at all (`sideEnds_of_construct`).
-/

namespace TypedRecord

/-- A record of some type without what it holds in the reserved field. -/
def Record.bare (cat : Catalog) (t : TypeId) (r : Record) : Record :=
  { r with data := cat.visible t r.data }

namespace Catalog

/-- Copying and wrapping come to an end in the reserved field. -/
def SideEnds (cat : Catalog) (mode : Mode) (registry : Option RegistryId) (t : TypeId)
    (es : Entries Value) : Prop :=
  ∀ e ∈ es, e.1.same (cat.sideKey t) = true →
    e.2.meets Value.isCopiedDeeply = false ∧ ∃ w, settledField cat mode registry t e.1 e.2 = .ok w

variable {cat : Catalog} {mode : Mode} {registry : Option RegistryId} {t : TypeId}
  {es : Entries Value}

theorem visible_cons_same {k : Key} (h : k.same (cat.sideKey t) = true) (v : Value)
    (rest : Entries Value) : cat.visible t ((k, v) :: rest) = cat.visible t rest :=
  List.filter_cons_of_neg (by simpa [sideKey] using h)

theorem visible_cons_of_ne {k : Key} (h : k.same (cat.sideKey t) = false) (v : Value)
    (rest : Entries Value) : cat.visible t ((k, v) :: rest) = (k, v) :: cat.visible t rest :=
  List.filter_cons_of_pos (by simpa [sideKey] using h)

@[simp] theorem visible_visible (data : Entries Value) :
    cat.visible t (cat.visible t data) = cat.visible t data := by
  simp [visible]

/-! ### Preparing data -/

/-- Whether data can be copied is up to what is seen of it. -/
theorem copyable_visible (h : cat.SideEnds mode registry t es) :
    copyable (cat.visible t es) = copyable es := by
  have hany : (cat.visible t es).any (fun e => e.2.meets Value.isCopiedDeeply) =
      es.any fun e => e.2.meets Value.isCopiedDeeply := by
    rw [Bool.eq_iff_iff, List.any_eq_true, List.any_eq_true]
    constructor
    · rintro ⟨e, he, hmeets⟩
      exact ⟨e, (Entries.mem_without.mp he).1, hmeets⟩
    · rintro ⟨e, he, hmeets⟩
      refine ⟨e, Entries.mem_without.mpr ⟨he, ?_⟩, hmeets⟩
      cases hside : e.1.same (cat.sideKey t) with
      | false => exact hside
      | true =>
          rw [(h e he hside).1] at hmeets
          cases hmeets
  rw [copyable, copyable, hany]

/-- Wrapping goes field by field, so the reserved field can be left out before or after it. -/
theorem answer_prepare_visible (h : cat.SideEnds mode registry t es) :
    (prepare cat mode registry t (cat.visible t es)).answer =
      (prepare cat mode registry t es).answer.map (cat.visible t) := by
  induction es with
  | nil => rfl
  | cons e rest ih =>
      obtain ⟨k, v⟩ := e
      obtain ⟨hhead, htail⟩ := List.forall_mem_cons.mp h
      have ih := ih htail
      rw [answer_prepare_cons]
      by_cases hside : k.same (cat.sideKey t) = true
      · obtain ⟨_, w, hw⟩ := hhead hside
        rw [visible_cons_same hside, ih, hw, Act.ok_bind, Act.map_bind]
        cases (prepare cat mode registry t rest).answer with
        | error failure => rfl
        | ok candidate => exact congrArg Except.ok (visible_cons_same hside w candidate).symm
      · rw [Bool.not_eq_true] at hside
        rw [visible_cons_of_ne hside, answer_prepare_cons, ih]
        cases settledField cat mode registry t k v with
        | error failure => rfl
        | ok w =>
            cases (prepare cat mode registry t rest).answer with
            | error failure => rfl
            | ok candidate => exact congrArg Except.ok (visible_cons_of_ne hside w candidate).symm

theorem settles_of_prepare {candidate : Entries Value}
    (h : (prepare cat mode registry t es).answer = .ok candidate) :
    ∀ e ∈ es, ∃ w, settledField cat mode registry t e.1 e.2 = .ok w := by
  induction es generalizing candidate with
  | nil => simp
  | cons e rest ih =>
      obtain ⟨k, v⟩ := e
      obtain ⟨w, settled, hw, hrest, rfl⟩ := answer_prepare_cons_eq_ok.mp h
      exact List.forall_mem_cons.mpr ⟨⟨w, hw⟩, ih hrest⟩

/-- Whatever is prepared has been copied and wrapped in the reserved field as well. -/
theorem sideEnds_of_prepare {candidate : Entries Value} (hcopyable : copyable es = .ok ())
    (h : (prepare cat mode registry t es).answer = .ok candidate) :
    cat.SideEnds mode registry t es := by
  intro e he _
  refine ⟨?_, settles_of_prepare h e he⟩
  cases hmeets : e.2.meets Value.isCopiedDeeply with
  | false => rfl
  | true =>
      have hany : (es.any fun e => e.2.meets Value.isCopiedDeeply) = true :=
        List.any_eq_true.mpr ⟨e, he, hmeets⟩
      rw [copyable, if_pos hany] at hcopyable
      cases hcopyable

/-! ### Judging data -/

/-- Data is judged by what is seen of it. -/
theorem validateAs_visible (v : Validator) (data : Entries Value) :
    cat.validateAs t v mode (cat.visible t data) = cat.validateAs t v mode data := by
  rw [validateAs, validateAs, visible_visible]

theorem answer_judge_bare (setup : Setup) (candidate : Entries Value) :
    (cat.judge t mode setup (cat.visible t candidate)).answer =
      (cat.judge t mode setup candidate).answer.map fun out => (out.1, out.2.bare cat t) := by
  by_cases hschema : cat.schemaOf t = []
  · simp only [judge, hschema, if_true, Act.answer_pure]
    rfl
  · rw [answer_judge hschema, answer_judge hschema, validateAs_visible]
    cases (cat.validateAs t setup.validator mode candidate).answer with
    | error failure => rfl
    | ok verdict => cases hvalid : verdict.valid <;> simp [Except.map, Record.bare, hvalid, visible]

/-- A record is made as it would be made of data without the reserved field, and then holds it. -/
theorem answer_construct_bare {setup : Setup} (h : cat.SideEnds mode setup.registry t es) :
    (cat.construct t mode setup es).answer.map (fun out => (out.1, out.2.bare cat t)) =
      (cat.construct t mode setup (cat.visible t es)).answer := by
  simp only [construct, Act.answer_bind, Act.answer_ofExcept, Act.map_bind, copyable_visible h,
    answer_prepare_visible h]
  cases copyable es with
  | error failure => rfl
  | ok _ =>
      cases (prepare cat mode setup.registry t es).answer with
      | error failure => rfl
      | ok candidate => exact (answer_judge_bare setup candidate).symm

theorem sideEnds_of_construct {setup : Setup} {out : Verdict × Record}
    (h : (cat.construct t mode setup es).answer = .ok out) :
    cat.SideEnds mode setup.registry t es := by
  obtain ⟨hcopyable, candidate, hcandidate, _⟩ := answer_construct_eq_ok.mp h
  exact sideEnds_of_prepare hcopyable hcandidate

/-- Data is validated as it would be without the reserved field, whether one failure is asked for or
all. -/
theorem answer_validateData_bare {data : Value} {validator : Option Validator}
    (hdata : data.entries? = some es)
    (h : cat.SideEnds mode ((cat.judging t validator).registry.or (cat.registryOf t)) t es)
    (exhaustive : Bool) :
    (cat.validateData t data mode validator exhaustive).answer =
      (cat.validateData t (.dict none (cat.visible t es)) mode validator exhaustive).answer := by
  have hbare : (Value.dict none (cat.visible t es)).entries? = some (cat.visible t es) := rfl
  rw [judging] at h
  simp only [validateData, hdata, hbare, Act.answer_bind, Act.answer_ofExcept, Act.ok_bind,
    copyable_visible h, answer_prepare_visible h]
  cases copyable es with
  | error failure => rfl
  | ok _ =>
      cases (prepare cat mode ((validator.getD { registry := cat.registryOf t }).registry.or
          (cat.registryOf t)) t es).answer with
      | error failure => rfl
      | ok candidate => simp only [Act.ok_bind, Except.map, visible_visible]

/-! ### Where the reserved field makes no trouble -/

/-- What is declared for the reserved field, if anything is, can be quoted. -/
theorem wrappingDescriptor?_sideKey
    (hdeclared : ∀ declared, (cat.schemaOf t).find? (cat.sideKey t) = some declared →
      declared.isWritable = true) {k : Key} (hside : k.same (cat.sideKey t) = true) :
    ∃ descriptor, cat.wrappingDescriptor? t k = .ok descriptor :=
  wrappingDescriptor?_eq_ok fun declared hfind =>
    hdeclared declared ((Entries.find?_congr hside _).symm.trans hfind)

/-- Without a registry nothing is wrapped, so it is enough that the reserved field can be copied. -/
theorem sideEnds_of_no_registry
    (hdeclared : ∀ declared, (cat.schemaOf t).find? (cat.sideKey t) = some declared →
      declared.isWritable = true)
    (h : ∀ e ∈ es, e.1.same (cat.sideKey t) = true → e.2.meets Value.isCopiedDeeply = false) :
    cat.SideEnds mode none t es := by
  intro e he hside
  refine ⟨h e he hside, ?_⟩
  obtain ⟨descriptor, hd⟩ := wrappingDescriptor?_sideKey hdeclared hside
  simp only [settledField, hd]
  cases descriptor with
  | none => exact ⟨_, rfl⟩
  | some d => exact ⟨_, settled_of_none (cat.wrapping?_unregistered d) e.2⟩

/-- Plain data with texts for keys and numbers that can be written is no trouble, whatever of it is
rejected on the way. -/
theorem sideEnds_of_reportable {r : RegistryId} (hr : cat.SelfContained r)
    (hdeclared : ∀ declared, (cat.schemaOf t).find? (cat.sideKey t) = some declared →
      declared.isWritable = true)
    (h : ∀ e ∈ es, e.1.same (cat.sideKey t) = true → e.2.IsPlain ∧ e.2.IsReportable) :
    cat.SideEnds mode (some r) t es := by
  intro e he hside
  obtain ⟨hplain, hreportable⟩ := h e he hside
  have hwhole := Value.IsPlain.isWhole e.2 hplain
  refine ⟨Value.IsWhole.meets e.2 hwhole, ?_⟩
  obtain ⟨descriptor, hd⟩ := wrappingDescriptor?_sideKey hdeclared hside
  simp only [settledField, hd]
  cases descriptor with
  | none => exact ⟨_, rfl⟩
  | some d =>
      obtain ⟨w, hw, _⟩ := settles_of_reportable hr true d e.2 hwhole hreportable
      exact ⟨w, hw⟩

end Catalog

end TypedRecord
