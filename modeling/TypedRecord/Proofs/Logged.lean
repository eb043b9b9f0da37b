import TypedRecord.Proofs.Wrapping

/-!
# TypedRecord.Proofs.Logged

What wrapping reports.

The records inside a record are built with a setup of their own, which reports to the log. So while
values are wrapped nothing reaches a collecting sink, be it that of the record outside or of its
validator: all notices are lines for the log (`logs_prepare`).
-/

namespace TypedRecord

/-- A notice that is a line for the log. -/
def Notice.IsLogged (notice : Notice) : Prop := notice.event? = none

section Logged

open Act (ReportsOnly)

variable {cat : Catalog} {mode : Mode} {registry : Option RegistryId}

theorem logs_log {σ : Type} (level : LogLevel) (source : LogSource) (message : String) :
    ReportsOnly Notice.IsLogged (Act.log level source message : Act σ Unit) :=
  .of_notify (List.forall_mem_singleton.mpr rfl)

/-- A sink that does not collect leaves lines for the log at most. -/
theorem logs_deliver {σ : Type} {sink : Sink} (h : sink ≠ .collecting) (event : Event) :
    ReportsOnly Notice.IsLogged (Act.deliver sink event : Act σ Unit) := by
  cases sink with
  | none => exact .of_pure ()
  | collecting => exact absurd rfl h
  | logging => exact logs_log _ _ _
  | broken => exact logs_log _ _ _

theorem logs_validate (known : Option (List String)) {v : Validator} (h : v.sink ≠ .collecting)
    (data : Value) (schema : Schema) (label : Option String) :
    ReportsOnly Notice.IsLogged (validate known v data schema mode label) := by
  unfold validate
  split
  · split
    · exact .of_pure _
    · exact .of_throw _
    · exact .bind (logs_deliver h _) fun _ => .of_pure _
  · exact .of_pure _

theorem logs_judge {t : TypeId} {setup : Setup} (hvalidator : setup.validator.sink ≠ .collecting)
    (hsink : setup.sink ≠ .collecting) (candidate : Entries Value) :
    ReportsOnly Notice.IsLogged (cat.judge t mode setup candidate) := by
  unfold Catalog.judge
  dsimp only
  split
  · exact .of_pure _
  · refine .bind (logs_validate _ hvalidator _ _ _) fun verdict => ?_
    split
    · exact .of_pure _
    · exact .bind (logs_deliver hsink _) fun _ => .of_pure _

/-- A record is built at a reference, or the mapping stays and that is logged. -/
theorem logs_build {t : TypeId} {entries : Entries Value} (target : String)
    (hprepare : ∀ registry t,
      ReportsOnly Notice.IsLogged (prepare cat mode registry t entries)) :
    ReportsOnly Notice.IsLogged (do
      let setup := cat.defaultSetup t
      Act.ofExcept (copyable entries)
      let candidate ← prepare cat mode setup.registry t entries
      let (_, nested) ← cat.judge t mode setup candidate
      if nested.header.valid then pure (some (nested.toValue none))
      else
        keptRaw target
        pure none : Traced (Option Value)) := by
  refine .bind (.of_ofExcept _) fun _ => .bind (hprepare _ t) fun candidate => ?_
  refine .bind (logs_judge (by simp [Catalog.defaultSetup]) (by simp [Catalog.defaultSetup]) _)
    fun out => ?_
  dsimp only
  split
  · exact .of_pure _
  · exact .bind (logs_log _ _ _) fun _ => .of_pure _

mutual

theorem logs_wrap? : (v : Value) → ∀ (registry : Option RegistryId) (fresh : Bool) (d : Descriptor),
    ReportsOnly Notice.IsLogged (wrap? cat mode registry fresh d v)
  | .list _ items, registry, fresh, d => by
      unfold wrap?
      split
      · next element _ =>
        refine .bind (logs_wrapItems items registry fresh element) fun replacements => ?_
        split <;> exact .of_pure _
      · exact .of_pure _
  | .tuple _ items, registry, _, d => by
      unfold wrap?
      split
      · next element _ =>
        exact .bind (logs_wrapItems items registry false element) fun _ => .of_pure _
      · exact .of_pure _
  | .dict _ entries, registry, _, d | .view _ entries, registry, _, d => by
      unfold wrap?
      split
      · exact logs_build _ (logs_prepare entries)
      · exact .of_pure _
      · exact .of_pure _
      · exact .of_pure _
  | .reference _, registry, _, d => by
      unfold wrap?
      split
      · exact .of_throw _
      · exact .of_pure _
  | .atom _ _, _, _, _ | .buffer _ _, _, _, _ | .set _, _, _, _ | .record _ _ _, _, _, _ => by
      unfold wrap?
      exact .of_pure _

theorem logs_wrapItems : (items : List Value) →
    ∀ (registry : Option RegistryId) (fresh : Bool) (d : Descriptor),
      ReportsOnly Notice.IsLogged (wrapItems cat mode registry fresh d items)
  | [], _, _, _ => by
      unfold wrapItems
      exact .of_pure _
  | v :: vs, registry, fresh, d => by
      unfold wrapItems
      exact .bind (logs_wrap? v registry fresh d) fun _ =>
        .bind (logs_wrapItems vs registry fresh d) fun _ => .of_pure _

/-- While the data of a record is prepared, nothing is reported but to the log. -/
theorem logs_prepare : (entries : List (Key × Value)) →
    ∀ (registry : Option RegistryId) (t : TypeId),
      ReportsOnly Notice.IsLogged (prepare cat mode registry t entries)
  | [], _, _ => by
      unfold prepare
      exact .of_pure _
  | (k, v) :: es, registry, t => by
      have hrest (replacement : Option Value) : ReportsOnly Notice.IsLogged (do
          let rest ← prepare cat mode registry t es
          pure ((k, settle true replacement v) :: rest)) :=
        .bind (logs_prepare es registry t) fun _ => .of_pure _
      unfold prepare
      dsimp only
      split
      · exact .bind (logs_wrap? v registry true _) hrest
      · exact .bind (.of_pure _) hrest
      · exact .bind (.of_throw _) hrest

end

end Logged

end TypedRecord
