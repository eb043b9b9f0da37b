import TypedRecord.Proofs.Reportable
import TypedRecord.Proofs.Record.FailedWrites
import TypedRecord.Proofs.Record.Settled

/-!
# TypedRecord.Proofs.Record.Standing

What has been wrapped stands.

A second pass over a value looks again at everything that the first one left: the records that were
built, which are not looked into, and the mappings that were rejected, of which the same record would be
built and be rejected again. `answer_wrap?_of_settled` says so of one value, whatever is registered. From
it a field that is settled stays settled, call by call (`isSettledAt_perform`), and `isSettledAt_after`
carries that through a run, in which calls may fail. What is in such a field is what reading it answers,
and reading changes nothing.

Side data is kept in a field of the record, the reserved one, and comes there without being wrapped. A
run may work on side data as long as it is another field that is read.
-/

namespace TypedRecord

/-- What stands is answered as it is. -/
theorem answer_wrap_of_stands {cat : Catalog} {mode : Mode} {registry : Option RegistryId}
    {d : Descriptor} {v : Value} (h : (wrap? cat mode registry false d v).answer = .ok none) :
    (wrap cat mode registry d v).answer = .ok v := by
  rw [wrap, Act.answer_bind, h]
  rfl

namespace Record

variable {cat : Catalog} {r : Record} {field : Key}

/-- A field is settled after a run if it was before, as long as the calls come to it wrapped. -/
theorem isSettledAt_after (hr : r.IsSettledAt cat field) {calls : List Call}
    (hwrapped : (∀ call ∈ calls, call.onFields = true) ∨
      field.same (cat.sideKey r.header.type.id) = false) :
    (r.after (calls.map fun call => (cat, call))).IsSettledAt cat field := by
  -- The reserved field is that of the type, which stays through the run.
  have hboth : (r.after (calls.map fun call => (cat, call))).header.type = r.header.type ∧
      (r.after (calls.map fun call => (cat, call))).IsSettledAt cat field := by
    refine @after_of_step (fun s => s.header.type = r.header.type ∧ s.IsSettledAt cat field) _ ?_ r
      ⟨rfl, hr⟩
    intro c hc s hs
    obtain ⟨htype, hsettled⟩ := hs
    obtain ⟨call, hcall, rfl⟩ := List.mem_map.mp hc
    refine ⟨(called cat call s).role_eq.1.trans htype, isSettledAt_perform hsettled ?_⟩
    rw [htype]
    exact hwrapped.imp_left fun hfields => hfields call hcall
  exact hboth.2

/-- Wrapping twice is wrapping once: what wrapping answers stands, and is answered if it is wrapped
again. Wrapping whole values that can be reported, with records among them or not, comes to an end where
the registry is self-contained. So a field of a record that was wrapped whenever it was written, by the
maker or by a call, is read as it is, and the record is not changed by reading it. -/
theorem wrapping_is_idempotent (cat : Catalog) (mode : Mode) (registry : Option RegistryId) :
    (∀ d v w, (wrap cat mode registry d v).answer = .ok w →
      (wrap? cat mode registry false d w).answer = .ok none ∧
        (wrap cat mode registry d w).answer = .ok w) ∧
    (∀ d v, (wrap cat mode registry d v >>= wrap cat mode registry d).answer =
      (wrap cat mode registry d v).answer) ∧
    ((∀ r ∈ registry, cat.SelfContained r) → ∀ d v, v.IsWhole → v.IsReportable →
      ∃ w, (wrap cat mode registry d v).answer = .ok w) ∧
    ∀ t data validator sink verdict r (calls : List Call) field default,
      (make cat t data mode validator registry sink).answer = .ok (verdict, r) →
      (∀ call ∈ calls, call.onFields = true) ∨
        field.same (cat.sideKey r.header.type.id) = false →
      let s := r.after (calls.map fun call => (cat, call))
      ((get cat field default).run s).state = s ∧ ((getPresent cat field).run s).state = s ∧
        ((get cat field default).run s).result = .ok ((s.data.find? field).getD default) := by
  have hstands {d : Descriptor} {v w : Value} (h : (wrap cat mode registry d v).answer = .ok w) :
      (wrap? cat mode registry false d w).answer = .ok none := by
    rw [answer_wrap] at h
    exact answer_wrap?_of_settled h
  refine ⟨?_, ?_, ?_, ?_⟩
  · intro d v w h
    exact ⟨hstands h, answer_wrap_of_stands (hstands h)⟩
  · intro d v
    rw [Act.answer_bind]
    cases h : (wrap cat mode registry d v).answer with
    -- What fails the first time is not tried again.
    | error failure => rfl
    | ok w => exact answer_wrap_of_stands (hstands h)
  · intro hr d v hwhole hreportable
    cases registry with
    | none =>
      refine ⟨v, answer_wrap_of_stands ?_⟩
      rw [wrap?_of_none (cat.wrapping?_unregistered d)]
      rfl
    | some r =>
      obtain ⟨w, hw, -⟩ := settles_of_reportable (hr r rfl) false d v hwhole hreportable
      exact ⟨w, (answer_wrap d v).trans hw⟩
  · intro t data validator sink verdict r calls field default hmake hwrapped s
    have hs : s.IsSettledAt cat field := isSettledAt_after (isSettled_make hmake field) hwrapped
    obtain ⟨hstate, hresult⟩ := run_get_of_isSettledAt hs default
    exact ⟨hstate, state_getPresent_of_isSettledAt hs, hresult⟩

/-- Two notes, the second of which is rejected. -/
def twoNotes : Value :=
  @Value.tuple .fixed none [.dict none [(.str "text", .str "N")], .dict none [(.str "text", .int 1)]]

/-- Something is said about a box, and then a note comes into it that is rejected. -/
def rejectedNoteCalls : List Call :=
  [.sidePut (.str "shop") (.str "price") (.int 3),
    .set (.str "note") (.dict none [(.str "text", .int 1)])]

/-- The rejected note stands, in a list of notes and in a tainted box. -/
theorem wrapping_is_idempotent_on_notes : ∃ w verdict r,
    (wrap boxes .loose (some 0) (.array (.named "Note" false) false) twoNotes).answer = .ok w ∧
      (w.items?.map fun items => items.map Value.kind) = some [.record, .dictionary] ∧
      (wrap boxes .loose (some 0) (.array (.named "Note" false) false) w).answer = .ok w ∧
      (make boxes 2 (.dict none [(.str "count", .int 1)]) .loose none (some 0) .none).answer =
        .ok (verdict, r) ∧
      let s := r.after (rejectedNoteCalls.map fun call => (boxes, call))
      s.header.tainted = true ∧ ((get boxes (.str "note") .nil).run s).state = s := by
  obtain ⟨w, hw, hkinds⟩ := @Act.exists_of_passes Value
    (fun w => (w.items?.map fun items => items.map Value.kind) = some [.record, .dictionary])
    (wrap boxes .loose (some 0) (.array (.named "Note" false) false) twoNotes).answer
    (by decide +kernel)
  obtain ⟨⟨verdict, r⟩, hmake, hrun⟩ := @Act.exists_of_passes (Verdict × Record)
    (fun out => out.2.header.type.id = 2 &&
      (out.2.after (rejectedNoteCalls.map fun call => (boxes, call))).header.tainted)
    (make boxes 2 (.dict none [(.str "count", .int 1)]) .loose none (some 0) .none).answer
    (by decide +kernel)
  simp only [Bool.and_eq_true, decide_eq_true_eq] at hkinds hrun
  obtain ⟨htype, htainted⟩ := hrun
  have hside : (Key.str "note").same (boxes.sideKey r.header.type.id) = false := by
    rw [htype]
    decide +kernel
  obtain ⟨hagain, -, -, hread⟩ := wrapping_is_idempotent boxes .loose (some 0)
  exact ⟨w, verdict, r, hw, hkinds, (hagain _ _ w hw).2, hmake, htainted,
    (hread 2 _ none .none verdict r rejectedNoteCalls (.str "note") .nil hmake (.inr hside)).1⟩

end Record

end TypedRecord
