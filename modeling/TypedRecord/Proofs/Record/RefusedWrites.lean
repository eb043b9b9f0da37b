import TypedRecord.Proofs.Record.Calls
import TypedRecord.Proofs.Record.Likeness

/-!
# TypedRecord.Proofs.Record.RefusedWrites

Refused writes to a strict record leave no trace.

A strict write that is refused leaves a record that differs from the one before in the last verdict
only. Nothing that is answered and nothing that is stored depends on the last verdict: to differ in it
alone (`Record.Alike`) is a likeness, which every call tracks. So a run can be repeated without its
refused writes, and everything else goes as before (`run_without_refused`).
-/

namespace TypedRecord

namespace Record

/-- A record that differs from another in the last verdict at most. -/
def Alike (r s : Record) : Prop :=
  s.data = r.data ∧ ∃ last, s.header = { r.header with lastVerdict := last }

namespace Alike

variable {r s u : Record}

theorem refl (r : Record) : Alike r r := ⟨rfl, _, rfl⟩

theorem symm (h : Alike r s) : Alike s r := by
  obtain ⟨hdata, last, hheader⟩ := h
  exact ⟨hdata.symm, r.header.lastVerdict, by rw [hheader]⟩

theorem trans (h : Alike r s) (h' : Alike s u) : Alike r u := by
  obtain ⟨hdata, last, hheader⟩ := h
  obtain ⟨hdata', last', hheader'⟩ := h'
  exact ⟨hdata'.trans hdata, last', by rw [hheader', hheader]⟩

theorem withVerdict (r : Record) (verdict : Verdict) : Alike r (r.withVerdict verdict) :=
  ⟨rfl, some verdict, rfl⟩

/-- The reason to look at records that are alike as one with its verdict changed. -/
theorem eq_update (h : Alike r s) :
    ∃ last, s = ⟨{ r.header with lastVerdict := last }, r.data⟩ := by
  obtain ⟨hdata, last, hheader⟩ := h
  obtain ⟨header, data⟩ := s
  exact ⟨last, by rw [← hheader, ← hdata]⟩

end Alike

variable {cat : Catalog}

/-- The last verdict has no say in how a record is called on. -/
theorem dataLikeness_alike (cat : Catalog) : DataLikeness cat Alike where
  role_eq h := by
    obtain ⟨last, rfl⟩ := h.eq_update
    exact ⟨rfl, rfl, rfl⟩
  judgement_eq h := by
    obtain ⟨last, rfl⟩ := h.eq_update
    rfl
  withVerdict h verdict := by
    obtain ⟨last, rfl⟩ := h.eq_update
    exact ⟨rfl, some verdict, rfl⟩
  asValid h := by
    obtain ⟨last, rfl⟩ := h.eq_update
    exact ⟨rfl, last, rfl⟩
  asTainted h := by
    obtain ⟨last, rfl⟩ := h.eq_update
    exact ⟨rfl, last, rfl⟩
  data_eq h := h.1
  withData h data := by
    obtain ⟨last, rfl⟩ := h.eq_update
    exact ⟨rfl, last, rfl⟩

/-- A strict write that is refused leaves a record that is alike. -/
theorem alike_of_refused {r : Record} (hmode : r.header.mode = .strict) {call : Call}
    {act : Act Record Bool} (hwrite : call.write? cat = some act)
    (hrefused : (act.run r).result = .ok false) : Alike r ((call.perform cat).run r).state := by
  obtain ⟨shown, hwritten⟩ := Call.written hwrite r
  rw [hrefused] at hwritten
  obtain ⟨verdict, hstate⟩ := hwritten.eq_withVerdict hmode
  rw [(Call.perform_write hwrite r).1, hstate]
  exact .withVerdict r verdict

end Record

/-! ### Runs in which schemas move -/

namespace Scene

/-- A scene that differs from another in the last verdict on its record at most. -/
structure Alike (s t : Scene) : Prop where
  catalog_eq : t.catalog = s.catalog
  record : s.record.Alike t.record

variable {s t : Scene}

theorem tracks_onRecord {α : Type} {act : Catalog → Act Record α}
    (h : ∀ cat, Act.Tracks Record.Alike (act cat) (act cat)) :
    Act.Tracks Alike (onRecord act) (onRecord act) := by
  rintro ⟨cat, r⟩ ⟨cat', r'⟩ ⟨hcat, hrecord⟩
  obtain rfl : cat' = cat := hcat
  obtain ⟨hstates, hresults⟩ := h cat' r r' hrecord
  exact ⟨⟨rfl, hstates⟩, hresults⟩

theorem tracks_onCatalog {α : Type} (act : Act Catalog α) :
    Act.Tracks Alike (onCatalog act) (onCatalog act) := by
  rintro ⟨cat, r⟩ ⟨cat', r'⟩ ⟨hcat, hrecord⟩
  obtain rfl : cat' = cat := hcat
  exact ⟨⟨rfl, hrecord⟩, rfl⟩

/-- Whatever happens, it happens alike. -/
theorem tracks_perform (action : Action) : Act.Tracks Alike action.perform action.perform := by
  cases action with
  | call request => exact tracks_onRecord fun cat => (Record.dataLikeness_alike cat).perform request
  | extend t fields => exact .bind (tracks_onCatalog _) fun _ => .of_pure _
  | reset t => exact .bind (tracks_onCatalog _) fun _ => .of_pure _

/-- Nothing that happens changes how strict the record is. -/
theorem mode_perform (action : Action) (s : Scene) :
    (action.perform.run s).state.record.header.mode = s.record.header.mode := by
  cases action with
  | call request => exact (Record.called s.catalog request s.record).role_eq.2.1
  | extend t fields =>
      simp only [Action.perform, Act.run_bind_pure]
      rfl
  | reset t => rfl

/-- The answer of a refused write is that of a write. -/
theorem write_of_isRefused {request : Record.Call} {answer : Record.Answer}
    (hrefused : (Action.call request).isRefused answer = true) {cat : Catalog} {r : Record}
    (hanswer : ((request.perform cat).run r).result = .ok answer) :
    ∃ act, request.write? cat = some act ∧ (act.run r).result = .ok false := by
  cases request with
  | set field v | update fields =>
      cases answer with
      | flag valid =>
          refine ⟨_, rfl, ?_⟩
          simp only [Record.Call.perform, Act.run_bind_pure] at hanswer
          cases hresult : (Act.run _ r).result with
          | error failure => rw [hresult] at hanswer; cases hanswer
          | ok written =>
              rw [hresult] at hanswer
              cases hanswer
              simpa [Action.isRefused] using hrefused
      | _ => cases hrefused
  | _ => cases hrefused

/-- A strict record is alike after a write that was refused. -/
theorem alike_of_isRefused (hmode : s.record.header.mode = .strict) {action : Action}
    {answer : Record.Answer} (hanswer : (action.perform.run s).result = .ok answer)
    (hrefused : action.isRefused answer = true) : s.Alike (action.perform.run s).state := by
  cases action with
  | call request =>
      obtain ⟨act, hwrite, hfalse⟩ := write_of_isRefused hrefused hanswer
      exact ⟨rfl, Record.alike_of_refused hmode hwrite hfalse⟩
  | extend _ _ => cases hrefused
  | reset _ => cases hrefused

theorem Alike.symm (h : s.Alike t) : t.Alike s := ⟨h.catalog_eq.symm, h.record.symm⟩

theorem Alike.trans {u : Scene} (h : s.Alike t) (h' : t.Alike u) : s.Alike u :=
  ⟨h'.catalog_eq.trans h.catalog_eq, h.record.trans h'.record⟩

theorem state_performAll_cons {action : Action} {answer : Record.Answer}
    (hanswer : (action.perform.run s).result = .ok answer) (rest : List Action) :
    ((performAll (action :: rest)).run s).state =
      ((performAll rest).run (action.perform.run s).state).state :=
  Act.state_inTurn_cons hanswer

/-- A run from some scene goes from a scene that is alike without its refused writes. -/
theorem tracks_withoutRefused {actions : List Action} {answers : List Record.Answer}
    (hmode : s.record.header.mode = .strict) (halike : s.Alike t)
    (hrun : ((performAll actions).run s).result = .ok answers) :
    ((performAll ((withoutRefused actions answers).map Prod.fst)).run t).result =
        .ok ((withoutRefused actions answers).map Prod.snd) ∧
      ((performAll actions).run s).state.Alike
        ((performAll ((withoutRefused actions answers).map Prod.fst)).run t).state := by
  induction actions generalizing s t answers with
  | nil =>
      cases hrun
      exact ⟨rfl, halike⟩
  | cons action actions ih =>
      obtain ⟨answer, rest, hanswer, hrest, rfl⟩ := Act.inTurn_cons_eq_ok.mp hrun
      have hmode' : (action.perform.run s).state.record.header.mode = .strict := by
        rw [mode_perform, hmode]
      rw [state_performAll_cons hanswer]
      cases hrefused : action.isRefused answer with
      | true =>
          -- The run without refused writes waits, and its scene is still alike.
          have hkept : withoutRefused (action :: actions) (answer :: rest) =
              withoutRefused actions rest := by simp [withoutRefused, hrefused]
          rw [hkept]
          exact ih hmode' ((alike_of_isRefused hmode hanswer hrefused).symm.trans halike) hrest
      | false =>
          have hkept : withoutRefused (action :: actions) (answer :: rest) =
              (action, answer) :: withoutRefused actions rest := by simp [withoutRefused, hrefused]
          -- Both runs take this step, from scenes that are alike.
          obtain ⟨hnext, hresult⟩ := tracks_perform action s t halike
          rw [hanswer] at hresult
          obtain ⟨hresults, hfinal⟩ := ih hmode' hnext hrest
          rw [hkept]
          refine ⟨?_, ?_⟩
          · exact Act.inTurn_cons_eq_ok.mpr ⟨answer, _, hresult.symm, hresults, rfl⟩
          · rw [List.map_cons, state_performAll_cons hresult.symm]
            exact hfinal

/-- A run with a strict record that comes to an end gives the same answers without its refused writes,
and leaves the same data, the same flags and the same types. -/
theorem run_without_refused (hmode : s.record.header.mode = .strict) (actions : List Action)
    {answers : List Record.Answer} (hrun : ((performAll actions).run s).result = .ok answers) :
    let kept := withoutRefused actions answers
    let full := ((performAll actions).run s).state
    let bare := ((performAll (kept.map Prod.fst)).run s).state
    ((performAll (kept.map Prod.fst)).run s).result = .ok (kept.map Prod.snd) ∧
      bare.record.data = full.record.data ∧
      bare.record.header.valid = full.record.header.valid ∧
      bare.record.header.tainted = full.record.header.tainted ∧
      bare.catalog = full.catalog := by
  obtain ⟨hresults, hcatalog, hdata, last, hheader⟩ :=
    tracks_withoutRefused hmode ⟨rfl, Record.Alike.refl s.record⟩ hrun
  exact ⟨hresults, hdata, by rw [hheader], by rw [hheader], hcatalog⟩

/-- A run with a counter: of its three writes one counts, and the schema changes in between. -/
def counterRun : List Action :=
  [.call (.set (.str "count") (.str "many")), .call (.update [(.str "count", .int 2)]),
    .extend 1 [(.str "limit", .str "int")], .call (.set (.str "count") (.int 3)),
    .call (.get (.str "count") .nil)]

/-- Two of the writes in this run are refused, and the data at its end is that of the run without
them. -/
theorem run_without_refused_of_counter : ∃ verdict r answers,
    Record.makeCounter [(.str "count", .int 1)] = .ok (verdict, r) ∧
      ((performAll counterRun).run ⟨Record.counters, r⟩).result = .ok answers ∧
      (withoutRefused counterRun answers).length = 3 ∧
      ((performAll ((withoutRefused counterRun answers).map Prod.fst)).run
          ⟨Record.counters, r⟩).state.record.data =
        ((performAll counterRun).run ⟨Record.counters, r⟩).state.record.data := by
  obtain ⟨⟨verdict, r⟩, hmake, hrun⟩ := @Act.exists_of_passes (Verdict × Record)
    (fun out => decide (out.2.header.mode = .strict) &&
      Act.passes (fun answers => (withoutRefused counterRun answers).length = 3)
        ((performAll counterRun).run ⟨Record.counters, out.2⟩).result)
    (Record.makeCounter [(.str "count", .int 1)]) (by decide +kernel)
  simp only [Bool.and_eq_true, decide_eq_true_eq] at hrun
  obtain ⟨hmode, hok⟩ := hrun
  obtain ⟨answers, hanswers, hlength⟩ := Act.exists_of_passes hok
  have hsame := run_without_refused (s := ⟨Record.counters, r⟩) hmode counterRun hanswers
  exact ⟨verdict, r, answers, hmake, hanswers, by simpa using hlength, hsame.2.1⟩

end Scene

end TypedRecord
