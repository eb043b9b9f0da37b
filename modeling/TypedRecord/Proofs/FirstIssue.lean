import Mathlib.Data.List.Forall2
import TypedRecord.Proofs.Findings

/-!
# TypedRecord.Proofs.FirstIssue

The two ways to validate, side by side.

`validate` stops at the first issue and `collect` goes through all of them before it reports any. Both
read one list of findings, so where collecting comes to an end the other answers the head of what was
collected and delivers the head of the events (`validate_is_head_of_collect`). Where collecting fails
the other may still answer: an issue that cannot be reported may stand behind the first one.
-/

namespace TypedRecord

/-- The notices given while events are delivered to a sink, one after the other. -/
def deliveries (sink : Sink) (events : List Event) : List Notice :=
  events.flatMap fun event => (Act.run (Act.deliver sink event : Traced Unit) ()).notices

/-- A collecting sink receives the events themselves. -/
theorem deliveries_collecting (events : List Event) :
    deliveries .collecting events = events.map .collected := by
  simp only [deliveries, List.map_eq_flatMap]
  rfl

/-- An event says everything that an issue says but its place, as serious as the mode makes it and
with a label. -/
structure Event.Tells (mode : Mode) (label : Option String) (event : Event) (issue : Issue) :
    Prop where
  severity_eq : event.severity = match mode with
    | .strict => .error
    | .loose => .warning
  kind_eq : event.kind = issue.kind
  message_eq : event.message = issue.message
  field_eq : event.field = issue.field.map Key.str
  expected_eq : event.expected = issue.expected
  actual_eq : event.actual = issue.actual
  label_eq : event.label = label

theorem Event.tells_ofIssue (mode : Mode) (label : Option String) (issue : Issue) :
    (Event.ofIssue issue mode.severity label).Tells mode label issue :=
  ⟨by cases mode <;> rfl, rfl, rfl, rfl, rfl, rfl, rfl⟩

/-- An issue is reported by one event, whatever comes of it. -/
theorem run_report (sink : Sink) (mode : Mode) (label : Option String) (issue : Issue) :
    Act.run (report sink mode label issue) () =
      ⟨(), deliveries sink [Event.ofIssue issue mode.severity label], .ok ()⟩ := by
  cases sink <;> rfl

/-- Issues are reported by one event each, in order. -/
theorem run_forM_report (sink : Sink) (mode : Mode) (label : Option String) (issues : List Issue) :
    Act.run (issues.forM (report sink mode label)) () =
      ⟨(), deliveries sink (issues.map fun issue => Event.ofIssue issue mode.severity label),
        .ok ()⟩ := by
  induction issues with
  | nil => rfl
  | cons issue rest ih =>
    change Act.run (report sink mode label issue >>= fun _ => rest.forM (report sink mode label)) ()
      = _
    rw [Act.run_bind_ok (a := ()) (by rw [run_report]), run_report, ih]
    simp [deliveries]

section Reports

variable {known : Option (List String)} {v : Validator} {data : Value} {schema : Schema}
  {mode : Mode} {label : Option String} {issues : List Issue}

/-- Collecting reports all issues. -/
theorem run_collect (hv : v.enabled = true)
    (h : findings known v.excerpt data schema mode = issues.map .ok) :
    Act.run (collect known v data schema mode label) () =
      ⟨(), deliveries v.sink (issues.map fun issue => Event.ofIssue issue mode.severity label),
        .ok ⟨issues⟩⟩ := by
  have hreport := run_forM_report v.sink mode label issues
  rw [collect, if_pos hv, issuesOf_eq_ok_iff.mpr h]
  change Act.run (issues.forM (report v.sink mode label) >>= fun _ => pure (Verdict.mk issues)) () = _
  rw [Act.run_bind_ok (a := ()) (by rw [hreport]), hreport]
  simp only [Act.run_pure, List.append_nil]

/-- Validating reports the first issue. -/
theorem run_validate (hv : v.enabled = true)
    (h : findings known v.excerpt data schema mode = issues.map .ok) :
    Act.run (validate known v data schema mode label) () =
      ⟨(), deliveries v.sink
          ((issues.take 1).map fun issue => Event.ofIssue issue mode.severity label),
        .ok ⟨issues.take 1⟩⟩ := by
  rw [validate, if_pos hv, h]
  cases issues with
  | nil => rfl
  | cons issue rest =>
    change Act.run (report v.sink mode label issue >>= fun _ => pure (Verdict.mk [issue])) () = _
    rw [Act.run_bind_ok (a := ()) (by rw [run_report]), run_report]
    simp

end Reports

/-- Where collecting comes to an end, validating does too: it answers the first of the issues, if there
are any, and reports it by the first of the events. There is one event for each issue, in order. -/
theorem validate_is_head_of_collect (known : Option (List String)) (v : Validator) (data : Value)
    (schema : Schema) (mode : Mode) (label : Option String) {verdict : Verdict}
    (h : (collect known v data schema mode label).answer = .ok verdict) :
    ∃ first, (validate known v data schema mode label).answer = .ok first ∧
      first.valid = verdict.valid ∧ first.issues = verdict.issues.take 1 ∧
      ∃ events, List.Forall₂ (Event.Tells mode label) events verdict.issues ∧
        (Act.run (collect known v data schema mode label) ()).notices =
          deliveries v.sink events ∧
        (Act.run (validate known v data schema mode label) ()).notices =
          deliveries v.sink (events.take 1) := by
  cases hv : v.enabled with
  | false =>
    -- Neither of the two looks at the data, so neither has findings to share.
    have hcollect : collect known v data schema mode label = pure .success := by simp [collect, hv]
    have hvalidate : validate known v data schema mode label = pure .success := by
      simp [validate, hv]
    rw [hcollect] at h
    cases h
    rw [hcollect, hvalidate]
    exact ⟨.success, rfl, rfl, rfl, [], .nil, rfl, rfl⟩
  | true =>
    rw [answer_collect hv] at h
    obtain ⟨issues, hissues, rfl⟩ := Act.map_eq_ok.mp h
    have hfound := issuesOf_eq_ok_iff.mp hissues
    refine ⟨⟨issues.take 1⟩, congrArg Outcome.result (run_validate hv hfound), ?_, rfl,
      issues.map fun issue => Event.ofIssue issue mode.severity label, ?_,
      congrArg Outcome.notices (run_collect hv hfound), ?_⟩
    · cases issues <;> rfl
    · rw [List.forall₂_map_left_iff]
      exact List.forall₂_same.mpr fun issue _ => Event.tells_ofIssue mode label issue
    · rw [← List.map_take]
      exact congrArg Outcome.notices (run_validate hv hfound)

/-- A validator that collects what it reports. -/
def censusValidator : Validator := { sink := .collecting }

/-- Of the five issues about a census with an age that is a text, validating answers and reports the
one about the missing name. -/
theorem validate_census :
    ∃ verdict first event,
      (collect none censusValidator (.dict none (censusEntries (.str "old"))) censusSchema .strict
        none).answer = .ok verdict ∧ verdict.issues.length = 5 ∧
      (validate none censusValidator (.dict none (censusEntries (.str "old"))) censusSchema .strict
        none).answer = .ok first ∧ first.valid = false ∧ first.issues = verdict.issues.take 1 ∧
      (Act.run (validate none censusValidator (.dict none (censusEntries (.str "old")))
        censusSchema .strict none) ()).notices = [.collected event] ∧
      event.field = some (.str "name") ∧ event.severity = .error := by
  obtain ⟨verdict, hcollect, hissues⟩ : ∃ verdict,
      (collect none censusValidator (.dict none (censusEntries (.str "old"))) censusSchema .strict
        none).answer = .ok verdict ∧
      decide (verdict.issues.map Issue.field =
        [some "name", some "age", some "tags", some "size", some "town"]) = true :=
    Act.exists_of_passes (by decide +kernel)
  obtain ⟨first, hfirst, hvalid, htake, events, hevents, -, hnotices⟩ :=
    validate_is_head_of_collect none censusValidator _ _ _ none hcollect
  rw [decide_eq_true_eq] at hissues
  obtain ⟨issue, rest, hsplit, hname, hrest⟩ := List.map_eq_cons_iff.mp hissues
  rw [hsplit] at hevents
  obtain ⟨event, others, htells, -, rfl⟩ := List.forall₂_cons_right_iff.mp hevents
  have hlength : verdict.issues.length = 5 := by simpa using congrArg List.length hissues
  refine ⟨verdict, first, event, hcollect, hlength, hfirst, ?_, htake, ?_, ?_, htells.severity_eq⟩
  · rw [hvalid, Verdict.valid, hsplit]
    rfl
  · rw [hnotices]
    exact deliveries_collecting [event]
  · rw [htells.field_eq, hname]
    rfl

end TypedRecord
