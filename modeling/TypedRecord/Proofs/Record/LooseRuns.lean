import TypedRecord.Proofs.Record.QuietReads

/-!
# TypedRecord.Proofs.Record.LooseRuns

Loose records lose no write.

A write to a loose record stores what it writes, wrapped, and the verdict on the data it leaves decides
the flags of the record and the answer (`perform_write_loose`). Reads leave a record as it is, since
nothing in it is left to be wrapped. So after a run the data is the initial data with everything that was
written entered in it (`Entries.putAll`), and the flags are those of that data: what they were on the way
has no say (`loose_run`).
-/

namespace TypedRecord

namespace Record

/-- What stands in a field of a record after a value has been written to it: the value, wrapped where the
field has a descriptor to wrap it by. -/
def wrapped (cat : Catalog) (header : Header) (field : Key) (v : Value) : Except Failure Value :=
  match cat.wrappingDescriptor? header.type.id field with
  | .ok (some d) => (wrap cat header.mode header.registry d v).answer
  | .ok none => .ok v
  | .error failure => .error failure

/-- Writes, and beside them what they enter: the same fields, each with the value wrapped. -/
inductive WrapsTo (cat : Catalog) (header : Header) :
    List (Key × Value) → List (Key × Value) → Prop
  | nil : WrapsTo cat header [] []
  | cons {field : Key} {v w : Value} (hw : wrapped cat header field v = .ok w)
      {writes entered : List (Key × Value)} (rest : WrapsTo cat header writes entered) :
      WrapsTo cat header ((field, v) :: writes) ((field, w) :: entered)

/-- The fields that a call writes and the values that it writes to them, in order. -/
def Call.writes : Call → List (Key × Value)
  | .set field v | .assign field v => [(field, v)]
  | .update fields => fields
  | _ => []

/-- Everything that calls write, in order. -/
def writesOf (calls : List Call) : List (Key × Value) := calls.flatMap Call.writes

/-- The last write of a run, with what it answered. -/
def lastWrite? (run : List (Call × Answer)) : Option (Call × Answer) :=
  (run.filter fun e => !e.1.isRead).getLast?

/-- A record that plays the role of another: what differs is data, the last verdict and flags. -/
def SameRole (r s : Record) : Prop := ∃ last valid tainted,
  s.header = { r.header with lastVerdict := last, valid := valid, tainted := tainted }

variable {cat : Catalog} {r s u : Record}

theorem SameRole.refl (r : Record) : SameRole r r := ⟨_, _, _, rfl⟩

theorem SameRole.trans (h : SameRole r s) (h' : SameRole s u) : SameRole r u := by
  obtain ⟨last, valid, tainted, hs⟩ := h
  obtain ⟨last', valid', tainted', hu⟩ := h'
  exact ⟨last', valid', tainted', by rw [hu, hs]⟩

theorem SameRole.wrapped_eq (h : SameRole r s) : wrapped cat s.header = wrapped cat r.header := by
  obtain ⟨last, valid, tainted, hs⟩ := h
  funext field v
  simp only [wrapped, hs]

namespace WrapsTo

variable {header header' : Header} {writes entered further added : List (Key × Value)}

theorem append (h : WrapsTo cat header writes entered) (h' : WrapsTo cat header further added) :
    WrapsTo cat header (writes ++ further) (entered ++ added) := by
  induction h with
  | nil => exact h'
  | cons hw _ ih => exact .cons hw ih

theorem of_wrapped_eq (h : WrapsTo cat header writes entered)
    (heq : wrapped cat header' = wrapped cat header) : WrapsTo cat header' writes entered := by
  induction h with
  | nil => exact .nil
  | cons hw _ ih => exact .cons (by rw [heq, hw]) ih

/-- Wrapping leaves the fields as they are. -/
theorem keys_eq (h : WrapsTo cat header writes entered) :
    Entries.keys entered = Entries.keys writes := by
  induction h with
  | nil => rfl
  | cons _ _ ih => exact congrArg (List.cons _) ih

end WrapsTo

/-! ### One write -/

theorem wrapped_eq (header : Header) (field : Key) (v : Value) :
    wrapped cat header field v =
      (incoming? cat header field v).answer.map fun replacement => replacement.getD v := by
  unfold wrapped incoming?
  cases cat.wrappingDescriptor? header.type.id field with
  | error failure => rfl
  | ok descriptor =>
      cases descriptor with
      | none => rfl
      | some d =>
          simp only [wrap, Act.answer_bind]
          cases (wrap? cat header.mode header.registry false d v).answer <;> rfl

/-- Storing that comes to an end has put the wrapped value into the field. -/
theorem state_store_of_ok {field : Key} {v : Value}
    (h : ((store cat field v).run r).result = .ok ()) :
    ∃ w, wrapped cat r.header field v = .ok w ∧
      ((store cat field v).run r).state = { r with data := r.data.put field w } := by
  obtain ⟨hstate, hresult⟩ := run_store cat field v r
  rw [hresult] at h
  obtain ⟨replacement, hincoming, _⟩ := Act.map_eq_ok.mp h
  rw [hincoming] at hstate
  exact ⟨replacement.getD v, by rw [wrapped_eq, hincoming]; rfl, hstate⟩

theorem state_storeAll_of_ok {fields : List (Key × Value)}
    (h : ((storeAll cat fields).run r).result = .ok ()) :
    ∃ ws, WrapsTo cat r.header fields ws ∧
      ((storeAll cat fields).run r).state = { r with data := Entries.putAll r.data ws } := by
  induction fields generalizing r with
  | nil => exact ⟨[], .nil, rfl⟩
  | cons e rest ih =>
      obtain ⟨field, v⟩ := e
      rw [storeAll, Act.result_bind] at h
      obtain ⟨_, hfirst, hrest⟩ := Act.bind_eq_ok.mp h
      obtain ⟨w, hw, hstate⟩ := state_store_of_ok hfirst
      rw [hstate] at hrest
      obtain ⟨ws, hws, hfinal⟩ := ih hrest
      refine ⟨(field, w) :: ws, .cons hw hws, ?_⟩
      rw [storeAll, Act.state_bind, hfirst, hstate]
      exact hfinal

theorem state_stores_of_ok {request : Call} (h : ((request.stores cat).run r).result = .ok ()) :
    ∃ ws, WrapsTo cat r.header request.writes ws ∧
      ((request.stores cat).run r).state = { r with data := Entries.putAll r.data ws } := by
  cases request with
  | set field v | assign field v =>
      obtain ⟨w, hw, hstate⟩ := state_store_of_ok h
      exact ⟨[(field, w)], .cons hw .nil, hstate⟩
  | update fields => exact state_storeAll_of_ok h
  | _ => exact ⟨[], .nil, rfl⟩

/-- The flags of a record, and what a write has answered, are those of the verdict on its data. -/
structure Reflects (cat : Catalog) (r : Record) (request : Call) (answer : Answer)
    (judged : Verdict) : Prop where
  judgement_eq : judgement cat r = .ok judged
  valid_eq : r.header.valid = judged.valid
  tainted_eq : r.header.tainted = !judged.valid
  answer_eq : answer = request.answerOf judged.valid

/-- A write to a loose record that comes to an end has entered everything, wrapped, and its verdict is
reflected. -/
theorem perform_write_loose {request : Call} {act : Act Record Bool}
    (hwrite : request.write? cat = some act) (hmode : r.header.mode = .loose) {answer : Answer}
    (h : ((request.perform cat).run r).result = .ok answer) :
    let s := ((request.perform cat).run r).state
    SameRole r s ∧ (∃ ws, WrapsTo cat r.header request.writes ws ∧ s.data = Entries.putAll r.data ws) ∧
      ∃ judged, Reflects cat s request answer judged := by
  rw [Call.result_of_write hwrite] at h
  obtain ⟨valid, hvalid, rfl⟩ := Act.map_eq_ok.mp h
  obtain ⟨shown, hwritten⟩ := Call.written hwrite r
  rw [hvalid] at hwritten
  obtain ⟨hstored, judged, hjudged, rfl, hstate⟩ := hwritten.ended
  obtain ⟨ws, hws, hdata⟩ := state_stores_of_ok hstored
  have hafter : (act.run r).state =
      ⟨{ r.header with lastVerdict := some judged, valid := judged.valid, tainted := !judged.valid },
        Entries.putAll r.data ws⟩ := by
    rw [hstate, hdata, hmode]
    cases judged.valid <;> rfl
  rw [hdata] at hjudged
  rw [(Call.perform_write hwrite r).1, hafter]
  -- Neither the verdict nor the flags are looked at when a record is judged.
  exact ⟨⟨_, _, _, rfl⟩, ⟨ws, hws, rfl⟩, judged, hjudged, rfl, rfl, rfl⟩

theorem Call.exists_write?_of_not_isRead {request : Call} (hfields : request.onFields = true)
    (hread : request.isRead = false) : ∃ act, request.write? cat = some act := by
  cases hwrite : request.write? cat with
  | some act => exact ⟨act, rfl⟩
  | none =>
      rw [Call.isRead_of_write?_eq_none hwrite hfields] at hread
      cases hread

theorem Call.writes_of_isRead {request : Call} (hread : request.isRead = true) :
    request.writes = [] := by
  cases request with
  | get _ _ | getPresent _ => rfl
  | _ => cases hread

/-! ### Runs -/

theorem lastWrite?_cons_of_read {request : Call} (hread : request.isRead = true) (answer : Answer)
    (run : List (Call × Answer)) : lastWrite? ((request, answer) :: run) = lastWrite? run := by
  simp [lastWrite?, hread]

theorem lastWrite?_cons_of_write {request : Call} (hread : request.isRead = false) (answer : Answer)
    (run : List (Call × Answer)) :
    lastWrite? ((request, answer) :: run) = some ((lastWrite? run).getD (request, answer)) := by
  simp [lastWrite?, hread, List.getLast?_cons]

/-- What a run leaves of a loose record in which nothing is left to be wrapped. The last write, if there
is one, is reflected in what the run leaves; without writes the run leaves the record as it was. -/
theorem performAll_loose {calls : List Call} (hfields : ∀ call ∈ calls, call.onFields = true)
    (hmode : r.header.mode = .loose) (hr : r.IsSettled cat) {answers : List Answer}
    (hrun : ((performAll (calls.map fun call => (cat, call))).run r).result = .ok answers) :
    let final := ((performAll (calls.map fun call => (cat, call))).run r).state
    SameRole r final ∧
      (∃ ws, WrapsTo cat r.header (writesOf calls) ws ∧ final.data = Entries.putAll r.data ws) ∧
      match lastWrite? (calls.zip answers) with
      | none => final = r
      | some (request, answer) => ∃ judged, Reflects cat final request answer judged := by
  induction calls generalizing r answers with
  | nil => exact ⟨.refl r, ⟨[], .nil, rfl⟩, by rfl⟩
  | cons request calls ih =>
      obtain ⟨hfield, hfields⟩ := List.forall_mem_cons.mp hfields
      obtain ⟨answer, rest, hanswer, hrest, rfl⟩ := Act.inTurn_cons_eq_ok.mp hrun
      have hstate : ((performAll ((request :: calls).map fun call => (cat, call))).run r).state =
          ((performAll (calls.map fun call => (cat, call))).run
            ((request.perform cat).run r).state).state := Act.state_inTurn_cons hanswer
      rw [hstate]
      have hnext := isSettled_perform hr hfield
      cases hread : request.isRead with
      | true =>
          have hsame := (Call.read_of_isRead hread r).eq_of_settled hr
          rw [hsame] at hrest ⊢
          rw [List.zip_cons_cons, lastWrite?_cons_of_read hread]
          have hwrites : writesOf (request :: calls) = writesOf calls := by
            simp [writesOf, Call.writes_of_isRead hread]
          rw [hwrites]
          exact ih hfields hmode hr hrest
      | false =>
          obtain ⟨act, hwrite⟩ : ∃ act, request.write? cat = some act :=
            Call.exists_write?_of_not_isRead hfield hread
          obtain ⟨hrole, ⟨ws, hws, hdata⟩, judged, hreflects⟩ :=
            perform_write_loose hwrite hmode hanswer
          have hmode' : ((request.perform cat).run r).state.header.mode = .loose := by
            obtain ⟨_, _, _, hheader⟩ := hrole
            rw [hheader, hmode]
          obtain ⟨hrole', ⟨ws', hws', hdata'⟩, hlast⟩ := ih hfields hmode' hnext hrest
          refine ⟨hrole.trans hrole', ⟨ws ++ ws', ?_, ?_⟩, ?_⟩
          · exact hws.append (hws'.of_wrapped_eq hrole.wrapped_eq.symm)
          · rw [hdata', hdata, Entries.putAll_append]
          · rw [List.zip_cons_cons, lastWrite?_cons_of_write hread]
            cases hlater : lastWrite? (calls.zip rest) with
            | none =>
                -- Only reads came after this write, and they left the record alone.
                rw [hlater] at hlast
                rw [hlast]
                exact ⟨judged, hreflects⟩
            | some later =>
                rw [hlater] at hlast
                exact hlast

/-- A run has a last write if it writes at all. -/
theorem exists_lastWrite? {calls : List Call} {answers : List Answer}
    (hlength : answers.length = calls.length) (h : ∃ call ∈ calls, call.isRead = false) :
    ∃ last, lastWrite? (calls.zip answers) = some last := by
  obtain ⟨call, hcall, hread⟩ := h
  have hcalls : (calls.zip answers).map Prod.fst = calls :=
    List.map_fst_zip (Nat.le_of_eq hlength.symm)
  rw [← hcalls] at hcall
  obtain ⟨e, he, rfl⟩ := List.mem_map.mp hcall
  rw [← Option.isSome_iff_exists, lastWrite?, List.getLast?_isSome]
  exact List.ne_nil_of_mem (List.mem_filter.mpr ⟨he, by simp [hread]⟩)

/-- A run with a loose record leaves the data that the record was made with, or none if that was rejected,
with everything entered that was written: a field holds the last value that was written to it, wrapped,
and fields stand in the order in which they were first entered. The verdict on that data decides the
flags and what the last write has answered. -/
theorem loose_run {t : TypeId} {data : Value} {validator : Option Validator}
    {registry : Option RegistryId} {sink : Sink} {verdict : Verdict}
    (hmake : (make cat t data .loose validator registry sink).answer = .ok (verdict, r))
    {calls : List Call} (hfields : ∀ call ∈ calls, call.onFields = true)
    (hwrites : ∃ call ∈ calls, call.isRead = false) {answers : List Answer}
    (hrun : ((performAll (calls.map fun call => (cat, call))).run r).result = .ok answers) :
    let setup := cat.setupFor t validator registry sink
    let final := ((performAll (calls.map fun call => (cat, call))).run r).state
    (∃ entries candidate, initialEntries data = .ok entries ∧
      (prepare cat .loose setup.registry t entries).answer = .ok candidate ∧
      r.data = if verdict.valid then candidate else []) ∧
    (∃ entered, WrapsTo cat r.header (writesOf calls) entered ∧
      final.data = Entries.putAll r.data entered ∧
      (∀ field, final.data.find? field =
        (Entries.find? field entered.reverse).or (r.data.find? field)) ∧
      final.data.keys = r.data.keys ++ Entries.newKeys r.data.keys (Entries.keys (writesOf calls))) ∧
    ∃ judged, (cat.validateAs t setup.validator .loose final.data).answer = .ok judged ∧
      final.header.valid = judged.valid ∧ final.header.tainted = !judged.valid ∧
      ∃ call, lastWrite? (calls.zip answers) = some (call, call.answerOf judged.valid) := by
  have hr := isSettled_make hmake
  simp only [make, Act.answer_bind, Act.answer_ofExcept] at hmake
  obtain ⟨entries, hentries, hconstruct⟩ := Act.bind_eq_ok.mp hmake
  obtain ⟨candidate, hcandidate, hmade⟩ := Catalog.judged_of_construct hconstruct
  obtain ⟨hrole, ⟨entered, hentered, hdata⟩, hlast⟩ :=
    performAll_loose hfields hmade.mode_eq hr hrun
  have hlength : answers.length = calls.length := by
    rw [Act.length_of_inTurn hrun, List.length_map, List.length_map]
  obtain ⟨⟨call, answer⟩, hcall⟩ := exists_lastWrite? hlength hwrites
  rw [hcall] at hlast
  obtain ⟨judged, hjudged, hvalid, htainted, rfl⟩ := hlast
  refine ⟨⟨entries, candidate, hentries, hcandidate, hmade.data_eq⟩,
    ⟨entered, hentered, hdata, fun field => ?_, ?_⟩, judged, ?_, hvalid, htainted, call, hcall⟩
  · rw [hdata, Entries.find?_putAll]
  · rw [hdata, Entries.keys_putAll, hentered.keys_eq]
  · obtain ⟨_, _, _, hheader⟩ := hrole
    rw [judgement, hheader] at hjudged
    rw [hmade.type_eq, hmade.validator_eq, hmade.mode_eq] at hjudged
    exact hjudged

/-- A box is spoiled, gets a note that is rejected and read, then another note, and is mended. -/
def boxCalls : List Call :=
  [.set (.str "count") (.str "many"), .update [(.str "note", .dict none [(.str "text", .int 1)])],
    .get (.str "note") .nil, .set (.str "note") (.dict none [(.str "text", .str "N")]),
    .set (.str "count") (.int 3)]

/-- The last write mends what the first one spoiled, and the box is no longer tainted. -/
theorem loose_run_of_box : ∃ verdict r answers,
    (make boxes 2 (.dict none [(.str "count", .int 1)]) .loose none none .none).answer =
        .ok (verdict, r) ∧
      ((performAll (boxCalls.map fun call => (boxes, call))).run r).result = .ok answers ∧
      let final := ((performAll (boxCalls.map fun call => (boxes, call))).run r).state
      final.header.tainted = false ∧ final.data.keys = [.str "count", .str "note"] ∧
        ∃ call, lastWrite? (boxCalls.zip answers) = some (call, call.answerOf true) := by
  obtain ⟨⟨verdict, r⟩, hmake, hrun⟩ := @Act.exists_of_passes (Verdict × Record)
    (fun out => decide (out.2.data.keys = [.str "count"]) &&
      Act.passes (fun _ => true)
        ((performAll (boxCalls.map fun call => (boxes, call))).run out.2).result &&
      ((performAll (boxCalls.map fun call => (boxes, call))).run out.2).state.header.valid)
    (make boxes 2 (.dict none [(.str "count", .int 1)]) .loose none none .none).answer
    (by decide +kernel)
  simp only [Bool.and_eq_true, decide_eq_true_eq] at hrun
  obtain ⟨⟨hkeys, hok⟩, hmended⟩ := hrun
  obtain ⟨answers, hanswers, _⟩ := Act.exists_of_passes hok
  have hfields : ∀ call ∈ boxCalls, call.onFields = true := by decide
  have hwrites : ∃ call ∈ boxCalls, call.isRead = false := ⟨_, .head _, rfl⟩
  obtain ⟨_, ⟨_, _, _, _, horder⟩, judged, _, hvalid, htainted, hlast⟩ :=
    loose_run hmake hfields hwrites hanswers
  rw [hmended] at hvalid
  rw [← hvalid] at htainted hlast
  rw [hkeys] at horder
  exact ⟨verdict, r, answers, hmake, hanswers, htainted, horder, hlast⟩

end Record

end TypedRecord
