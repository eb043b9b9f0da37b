import TypedRecord.Proofs.Flattening
import TypedRecord.Proofs.Logged
import TypedRecord.Proofs.Record.LooseRuns
import TypedRecord.Proofs.Record.Sinks

/-!
# TypedRecord.Proofs.Record.Unchecked

Records that are not checked.

A validator that is not enabled looks at nothing. A record with such a validator accepts everything, and
its writes do nothing but store (`run_write`): whatever a write reports is reported while its values are
wrapped. The records inside are built with validators of their own, which are enabled, and a mapping that
is no record of the type referred to stays a mapping. Neither shows in the plain form of the record,
which is that of the values that were given (`unchecked_run`), as long as nothing but records is built.

It is not enough for that if the registry of the record holds record types only: a type in it may
resolve its own references elsewhere (`not_plain_in_depot`).
-/

namespace TypedRecord

/-- A validator that is not enabled has nothing to say. -/
theorem Catalog.validateAs_of_disabled {v : Validator} (hv : v.enabled = false) (cat : Catalog)
    (t : TypeId) (mode : Mode) (data : Entries Value) :
    cat.validateAs t v mode data = pure .success := by
  simp [validateAs, validate, hv]

namespace Record

variable {cat : Catalog} {r : Record}

/-- A record whose validator is not enabled, and which counts as valid. -/
structure IsUnchecked (r : Record) : Prop where
  disabled : r.header.validator.enabled = false
  valid : r.header.valid = true
  tainted : r.header.tainted = false

/-- The record as a write leaves it that nothing is wrong with. -/
def accepted (r : Record) : Record := (r.withVerdict .success).asValid

/-- What comes of a write that does nothing but store, given what came of storing. -/
def afterStoring {α : Type} (stored : Outcome Record Unit) (answer : α) : Outcome Record α :=
  match stored.result with
  | .error failure => ⟨stored.state, stored.notices, .error failure⟩
  | .ok _ => ⟨stored.state.accepted, stored.notices, .ok answer⟩

@[simp] theorem notices_afterStoring {α : Type} (stored : Outcome Record Unit) (answer : α) :
    (afterStoring stored answer).notices = stored.notices := by
  unfold afterStoring
  cases stored.result <;> rfl

/-- A write that has come to an end has stored something. -/
theorem afterStoring_eq_ok {α : Type} {stored : Outcome Record Unit} {answer given : α}
    (h : (afterStoring stored answer).result = .ok given) :
    stored.result = .ok () ∧ given = answer ∧
      (afterStoring stored answer).state = stored.state.accepted := by
  unfold afterStoring at h ⊢
  cases hstored : stored.result with
  | error failure => rw [hstored] at h; cases h
  | ok _ =>
    rw [hstored] at h
    cases h
    exact ⟨rfl, rfl, rfl⟩

namespace IsUnchecked

/-! ### One write -/

theorem of_header_eq {s : Record} (hr : r.IsUnchecked) (h : s.header = r.header) :
    s.IsUnchecked :=
  ⟨h ▸ hr.disabled, h ▸ hr.valid, h ▸ hr.tainted⟩

theorem accepted (hr : r.IsUnchecked) : r.accepted.IsUnchecked := ⟨hr.disabled, rfl, rfl⟩

theorem run_revalidate (hr : r.IsUnchecked) (cat : Catalog) :
    (revalidate cat).run r = ⟨r.accepted, [], .ok true⟩ := by
  unfold revalidate
  rw [Act.run_get_bind, Catalog.validateAs_of_disabled hr.disabled]
  rfl

/-- A write stores, and nothing else of it can fail or is reported. -/
theorem run_write (hr : r.IsUnchecked) {storing : Act Record Unit}
    (hheader : (storing.run r).state.header = r.header)
    (back : Entries Value → Entries Value → Entries Value) (shown : Except Failure String)
    (message : String → String) (field : Option Key) :
    (write cat storing back shown message field).run r = afterStoring (storing.run r) true := by
  unfold write afterStoring
  rw [Act.run_get_bind]
  cases hstored : (storing.run r).result with
  | error failure => rw [Act.run_bind_error hstored]
  | ok _ =>
    have hrevalidate := (hr.of_header_eq hheader).run_revalidate cat
    rw [Act.run_bind_ok hstored, Act.run_bind_ok (a := true) (by rw [hrevalidate]), hrevalidate]
    simp

theorem run_perform (hr : r.IsUnchecked) {call : Call} (hwrite : (call.write? cat).isSome = true) :
    (call.perform cat).run r =
      afterStoring ((call.stores cat).run r) (call.answerOf true) := by
  cases call with
  | set field v | assign field v =>
    simp only [Call.perform, Act.run_bind_pure, set_eq_write, Call.stores, Call.answerOf,
      hr.run_write (header_store cat field v r), afterStoring]
    cases hstored : ((store cat field v).run r).result <;> simp [Except.map]
  | update fields =>
    simp only [Call.perform, Act.run_bind_pure, update_eq_write, Call.stores, Call.answerOf,
      hr.run_write (header_storeAll cat fields r), afterStoring]
    cases hstored : ((storeAll cat fields).run r).result <;> simp [Except.map]
  | _ => cases hwrite

/-- A record stays unchecked, also where a write fails. -/
theorem maintains_perform {call : Call} (hwrite : (call.write? cat).isSome = true) :
    Act.Maintains IsUnchecked (call.perform cat) := by
  intro r hr
  have hstored := hr.of_header_eq (Call.header_stores cat call r)
  rw [hr.run_perform hwrite]
  unfold afterStoring
  split
  · exact hstored
  · exact hstored.accepted

end IsUnchecked

/-! ### Runs -/

section Runs

variable {calls : List Call}

theorem isUnchecked_performAll (hr : r.IsUnchecked)
    (hwrites : ∀ call ∈ calls, (call.write? cat).isSome = true) :
    ((performAll (calls.map fun call => (cat, call))).run r).state.IsUnchecked := by
  refine Act.Maintains.of_inTurn ?_ r hr
  intro act hact
  simp only [List.map_map, List.mem_map, Function.comp_apply] at hact
  obtain ⟨call, hcall, rfl⟩ := hact
  exact IsUnchecked.maintains_perform (hwrites call hcall)

/-- What a run of writes leaves of a record that is not checked: it has stored everything, wrapped. -/
theorem performAll_unchecked (hr : r.IsUnchecked)
    (hwrites : ∀ call ∈ calls, (call.write? cat).isSome = true) {answers : List Answer}
    (hrun : ((performAll (calls.map fun call => (cat, call))).run r).result = .ok answers) :
    answers = calls.map (fun call => call.answerOf true) ∧
      ∃ ws, WrapsTo cat r.header (writesOf calls) ws ∧
        ((performAll (calls.map fun call => (cat, call))).run r).state.data =
          Entries.putAll r.data ws := by
  induction calls generalizing r answers with
  | nil =>
    cases hrun
    exact ⟨rfl, [], .nil, rfl⟩
  | cons call calls ih =>
    obtain ⟨hwrite, hwrites⟩ := List.forall_mem_cons.mp hwrites
    obtain ⟨answer, rest, hanswer, hrest, rfl⟩ := Act.inTurn_cons_eq_ok.mp hrun
    have hnext := IsUnchecked.maintains_perform hwrite r hr
    have hstate : ((performAll ((call :: calls).map fun call => (cat, call))).run r).state =
        ((performAll (calls.map fun call => (cat, call))).run
          ((call.perform cat).run r).state).state := Act.state_inTurn_cons hanswer
    rw [hstate]
    obtain ⟨rfl, ws', hws', hdata'⟩ := ih hnext hwrites hrest
    rw [hr.run_perform hwrite] at hanswer
    obtain ⟨hstored, rfl, hafter⟩ := afterStoring_eq_ok hanswer
    obtain ⟨ws, hws, hdata⟩ := state_stores_of_ok hstored
    -- The rest of the run wraps by the same type, mode and registry.
    have hrole : SameRole r ((call.perform cat).run r).state := by
      rw [hr.run_perform hwrite, hafter, hdata]
      exact ⟨_, _, _, rfl⟩
    refine ⟨rfl, ws ++ ws', hws.append (hws'.of_wrapped_eq hrole.wrapped_eq.symm), ?_⟩
    rw [hdata', Entries.putAll_append, hr.run_perform hwrite, hafter, hdata]
    rfl

/-! ### What is reported -/

theorem logs_incoming? (cat : Catalog) (header : Header) (field : Key) (v : Value) :
    Act.ReportsOnly Notice.IsLogged (incoming? cat header field v) := by
  unfold incoming?
  split
  · exact logs_wrap? v _ _ _
  · exact .of_pure _
  · exact .of_throw _

theorem logs_store (cat : Catalog) (field : Key) (v : Value) :
    Act.ReportsOnly Notice.IsLogged (store cat field v) :=
  .get_bind fun r => .bind (.of_lift (logs_incoming? cat r.header field v)) fun _ => .of_modify _

theorem logs_storeAll (cat : Catalog) (fields : List (Key × Value)) :
    Act.ReportsOnly Notice.IsLogged (storeAll cat fields) := by
  induction fields with
  | nil => exact .of_pure ()
  | cons e rest ih => exact .bind (logs_store cat e.1 e.2) fun _ => ih

theorem Call.logs_stores (cat : Catalog) (call : Call) :
    Act.ReportsOnly Notice.IsLogged (call.stores cat) := by
  cases call with
  | set field v | assign field v => exact logs_store cat field v
  | update fields => exact logs_storeAll cat fields
  | _ => exact .of_pure ()

/-- A run of writes to a record that is not checked reports nothing but lines for the log. -/
theorem logs_performAll (hr : r.IsUnchecked)
    (hwrites : ∀ call ∈ calls, (call.write? cat).isSome = true) :
    ∀ notice ∈ ((performAll (calls.map fun call => (cat, call))).run r).notices,
      notice.IsLogged := by
  induction calls generalizing r with
  | nil => simp [performAll, Act.inTurn]
  | cons call calls ih =>
    obtain ⟨hwrite, hwrites⟩ := List.forall_mem_cons.mp hwrites
    have hnext := IsUnchecked.maintains_perform hwrite r hr
    intro notice hnotice
    change notice ∈ (Act.run (call.perform cat >>= fun answer =>
      performAll (calls.map fun call => (cat, call)) >>= fun answers =>
        pure (answer :: answers)) r).notices at hnotice
    rw [Act.notices_bind, List.mem_append] at hnotice
    rcases hnotice with hfirst | hlater
    · rw [hr.run_perform hwrite, notices_afterStoring] at hfirst
      exact Call.logs_stores cat call r notice hfirst
    · split at hlater
      · cases hlater
      · rw [Act.run_bind_pure] at hlater
        exact ih hnext hwrites notice hlater

/-! ### Without sinks -/

/-- An operation does to a record without its sinks what it does to the record. -/
def IgnoresSinks {α : Type} (act : Act Record α) (r : Record) : Prop :=
  act.run r.muted = { act.run r with state := (act.run r).state.muted }

theorem IgnoresSinks.bind {α β : Type} {act : Act Record α} {next : α → Act Record β}
    (hact : IgnoresSinks act r)
    (hnext : ∀ a, (act.run r).result = .ok a → IgnoresSinks (next a) (act.run r).state) :
    IgnoresSinks (act >>= next) r := by
  have hresult : (act.run r.muted).result = (act.run r).result := by rw [hact]
  cases h : (act.run r).result with
  | error failure =>
    rw [IgnoresSinks, Act.run_bind_error h, Act.run_bind_error (hresult.trans h), hact]
  | ok a =>
    rw [IgnoresSinks, Act.run_bind_ok h, Act.run_bind_ok (hresult.trans h), hact, hnext a h]

theorem ignoresSinks_store (field : Key) (v : Value) : IgnoresSinks (store cat field v) r := by
  unfold IgnoresSinks store
  rw [Act.run_get_bind, Act.run_get_bind]
  -- Wrapping looks at the type, the mode and the registry of the record only.
  have hincoming : incoming? cat r.muted.header field v = incoming? cat r.header field v :=
    incoming?_congr rfl rfl rfl field v
  rw [hincoming]
  exact IgnoresSinks.bind rfl fun _ _ => rfl

theorem ignoresSinks_storeAll (fields : List (Key × Value)) :
    IgnoresSinks (storeAll cat fields) r := by
  induction fields generalizing r with
  | nil => rfl
  | cons e rest ih => exact (ignoresSinks_store e.1 e.2).bind fun _ _ => ih

theorem Call.ignoresSinks_stores (call : Call) : IgnoresSinks (call.stores cat) r := by
  cases call with
  | set field v | assign field v => exact ignoresSinks_store field v
  | update fields => exact ignoresSinks_storeAll fields
  | _ => rfl

theorem Call.ignoresSinks_perform (hr : r.IsUnchecked) {call : Call}
    (hwrite : (call.write? cat).isSome = true) : IgnoresSinks (call.perform cat) r := by
  have hmuted : r.muted.IsUnchecked := ⟨hr.disabled, hr.valid, hr.tainted⟩
  rw [IgnoresSinks, hr.run_perform hwrite, hmuted.run_perform hwrite, call.ignoresSinks_stores]
  unfold afterStoring
  cases ((call.stores cat).run r).result <;> rfl

theorem ignoresSinks_performAll (hr : r.IsUnchecked)
    (hwrites : ∀ call ∈ calls, (call.write? cat).isSome = true) :
    IgnoresSinks (performAll (calls.map fun call => (cat, call))) r := by
  induction calls generalizing r with
  | nil => rfl
  | cons call calls ih =>
    obtain ⟨hwrite, hwrites⟩ := List.forall_mem_cons.mp hwrites
    refine (Call.ignoresSinks_perform hr hwrite).bind fun _ _ => ?_
    exact (ih (IsUnchecked.maintains_perform hwrite r hr) hwrites).bind fun _ _ => rfl

end Runs

/-! ### Plain forms -/

/-- What comes into a field is flattened to what was given. -/
theorem plain_incoming {header : Header} (htypes : cat.FindsTypesOnly header.registry) {field : Key}
    {v : Value} (hv : v.IsTupleFree) {replacement : Option Value}
    (h : (incoming? cat header field v).answer = .ok replacement) :
    (replacement.getD v).plain = v.plain := by
  rcases incoming?_cases h with ⟨-, rfl⟩ | ⟨d, -, hsettled⟩
  · rfl
  · exact plain_settled v hv htypes hsettled

/-- What writes enter is flattened to what they were given. -/
theorem WrapsTo.plainEntries_eq {header : Header} (htypes : cat.FindsTypesOnly header.registry)
    {writes entered : List (Key × Value)} (h : WrapsTo cat header writes entered)
    (hfree : ∀ e ∈ writes, e.2.IsTupleFree) : plainEntries entered = plainEntries writes := by
  induction h with
  | nil => rfl
  | @cons field v w hw writes entered _ ih =>
    obtain ⟨hv, hfree⟩ := List.forall_mem_cons.mp hfree
    have hplain : w.plain = v.plain := by
      rw [wrapped_eq] at hw
      obtain ⟨replacement, hincoming, rfl⟩ := Act.map_eq_ok.mp hw
      exact plain_incoming htypes hv hincoming
    simp only [plainEntries, hplain, ih hfree]

/-! ### Making -/

section Making

variable {t : TypeId} {mode : Mode}

/-- Nothing is wrong with any data, and nothing is said about it. -/
theorem run_judge_of_disabled {setup : Setup} (hv : setup.validator.enabled = false)
    (candidate : Entries Value) : ∃ built,
      (cat.judge t mode setup candidate).run () = ⟨(), [], .ok (.success, built)⟩ := by
  unfold Catalog.judge
  rw [Catalog.validateAs_of_disabled hv]
  by_cases hschema : cat.schemaOf t = []
  · exact ⟨_, by rw [if_pos hschema]; rfl⟩
  · exact ⟨_, by rw [if_neg hschema]; rfl⟩

theorem notices_judge_of_disabled {setup : Setup} (hv : setup.validator.enabled = false)
    (candidate : Entries Value) : ((cat.judge t mode setup candidate).run ()).notices = [] := by
  obtain ⟨built, hbuilt⟩ := run_judge_of_disabled hv candidate
  rw [hbuilt]

/-- While a record is made that is not checked, nothing is reported but lines for the log. -/
theorem logs_make_of_disabled {v : Validator} (hv : v.enabled = false) (data : Value)
    (registry : Option RegistryId) (sink : Sink) :
    Act.ReportsOnly Notice.IsLogged (make cat t data mode (some v) registry sink) := by
  refine .bind (.of_ofExcept _) fun entries => .bind (.of_ofExcept _) fun _ =>
    .bind (logs_prepare entries _ t) fun candidate => ?_
  intro _ notice hnotice
  rw [notices_judge_of_disabled hv] at hnotice
  cases hnotice

/-- No sink has a part in what is reported. -/
theorem notices_make_of_disabled {v v' : Validator} (hv : v.enabled = false)
    (hv' : v'.enabled = false) (data : Value) (registry : Option RegistryId) (sink sink' : Sink) :
    ((make cat t data mode (some v) registry sink).run ()).notices =
      ((make cat t data mode (some v') registry sink').run ()).notices := by
  have hjudge := @notices_judge_of_disabled cat t mode (cat.setupFor t (some v) registry sink) hv
  have hjudge' := @notices_judge_of_disabled cat t mode (cat.setupFor t (some v') registry sink') hv'
  simp only [make, Catalog.construct, Act.notices_bind, hjudge, hjudge']
  rfl

/-- Making comes to an end with a valid record, of the candidate that was prepared. -/
theorem made_unchecked {v : Validator} (hv : v.enabled = false) {data : Value}
    {registry : Option RegistryId} {sink : Sink} {verdict : Verdict}
    (h : (make cat t data mode (some v) registry sink).answer = .ok (verdict, r)) :
    verdict.valid = true ∧ r.IsUnchecked ∧ r.header.registry = registry.or (cat.registryOf t) ∧
      ∃ entries, initialEntries data = .ok entries ∧
        (prepare cat mode r.header.registry t entries).answer = .ok r.data := by
  simp only [make, Act.answer_bind, Act.answer_ofExcept] at h
  obtain ⟨entries, hentries, h⟩ := Act.bind_eq_ok.mp h
  obtain ⟨_, candidate, hcandidate, hjudge⟩ := Catalog.answer_construct_eq_ok.mp h
  obtain ⟨built, hbuilt⟩ := @run_judge_of_disabled cat t mode
    (cat.setupFor t (some v) registry sink) hv candidate
  have hjudged := Catalog.judged_of_judge hjudge
  have hverdict : verdict = .success := by
    have hanswer := congrArg Outcome.result hbuilt
    rw [Act.result_run_unit, hjudge] at hanswer
    exact congrArg Prod.fst (Except.ok.inj hanswer)
  subst hverdict
  refine ⟨rfl, ⟨by rw [hjudged.validator_eq]; exact hv, hjudged.valid_eq, hjudged.tainted_eq⟩,
    hjudged.registry_eq, entries, hentries, ?_⟩
  rw [hjudged.registry_eq, hjudged.data_eq]
  exact hcandidate

end Making

/-- A record with a validator that is not enabled takes whatever it is given and gives it back. It is
valid from the start on and after every write, every write answers so, and its plain form is that of the
values given last, in the order in which fields were first given. No sink receives anything, and all
that is reported is reported without sinks too. -/
theorem unchecked_run {t : TypeId} {v : Validator} (hv : v.enabled = false)
    {registry : Option RegistryId}
    (htypes : cat.FindsTypesOnly (registry.or (cat.registryOf t))) {data : Value}
    {entries : Entries Value} (hentries : initialEntries data = .ok entries)
    (hdata : ∀ e ∈ entries, e.2.IsTupleFree) {mode : Mode} {sink : Sink} {verdict : Verdict}
    (hmake : (make cat t data mode (some v) registry sink).answer = .ok (verdict, r))
    {calls : List Call} (hwrites : ∀ call ∈ calls, (call.write? cat).isSome = true)
    (hvalues : ∀ e ∈ writesOf calls, e.2.IsTupleFree) {answers : List Answer}
    (hrun : ((performAll (calls.map fun call => (cat, call))).run r).result = .ok answers) :
    let making := (make cat t data mode (some v) registry sink).run ()
    let after (calls : List Call) := (performAll (calls.map fun call => (cat, call))).run r
    verdict.valid = true ∧ answers = calls.map (fun call => call.answerOf true) ∧
    (∀ n, (after (calls.take n)).state.header.valid = true ∧
      (after (calls.take n)).state.header.tainted = false) ∧
    (after calls).state.toPlain =
      Entries.putAll (plainEntries entries) (plainEntries (writesOf calls)) ∧
    (∀ field, (after calls).state.toPlain.find? field =
      ((Entries.find? field (writesOf calls).reverse).or (entries.find? field)).map Value.plain) ∧
    (∀ notice ∈ making.notices ++ (after calls).notices, notice.event? = none) ∧
    making.notices = ((make cat t data mode (some v.muted) registry .none).run ()).notices ∧
    (after calls).notices =
      ((performAll (calls.map fun call => (cat, call))).run r.muted).notices := by
  obtain ⟨hvalid, hr, hregistry, entries', hentries', hprepare⟩ := made_unchecked hv hmake
  obtain rfl : entries = entries' := Except.ok.inj (hentries.symm.trans hentries')
  rw [← hregistry] at htypes
  obtain ⟨hanswers, ws, hws, hfinal⟩ := performAll_unchecked hr hwrites hrun
  have hplain : ((performAll (calls.map fun call => (cat, call))).run r).state.toPlain =
      Entries.putAll (plainEntries entries) (plainEntries (writesOf calls)) := by
    rw [toPlain, hfinal, plainEntries_putAll, hws.plainEntries_eq htypes hvalues,
      plain_prepare entries (throughoutEntries_iff.mpr hdata) htypes hprepare]
  refine ⟨hvalid, hanswers, fun n => ?_, hplain, fun field => ?_, ?_, ?_, ?_⟩
  · have hn := isUnchecked_performAll hr fun call hcall =>
      hwrites call (List.mem_of_mem_take (i := n) hcall)
    exact ⟨hn.valid, hn.tainted⟩
  · rw [hplain, ← plainEntries_putAll, find?_plainEntries, Entries.find?_putAll]
  · intro notice hnotice
    rcases List.mem_append.mp hnotice with hmaking | hrunning
    · exact logs_make_of_disabled hv data registry sink () notice hmaking
    · exact logs_performAll hr hwrites notice hrunning
  · have hmuted : v.muted.enabled = false := hv
    exact notices_make_of_disabled hv hmuted data registry sink .none
  · rw [ignoresSinks_performAll hr hwrites]

/-- A validator that is not enabled and collects what it is told. -/
def idleValidator : Validator := { enabled := false, sink := .collecting }

/-- A note whose text is a number, about something that is no topic in strict mode. -/
def mistakenNote : Entries Value :=
  [(.str "text", .int 5), (.str "about", .dict none [(.str "color", .str "red")])]

/-- The note gets a topic with a note that is rejected, and then one with a note that is not. -/
def noteCalls : List Call :=
  [.set (.str "about") (.dict none (Catalog.topicEntries (.int 1))),
    .update [(.str "text", .nil), (.str "about", .dict none (Catalog.topicEntries (.str "x")))]]

theorem unchecked_run_of_note : ∃ verdict r answers,
    (make Catalog.topicsAndNotes 2 (.dict none mistakenNote) .strict (some idleValidator) none
        .collecting).answer = .ok (verdict, r) ∧
      (r.data.find? (.str "about")).map Value.kind = some .dictionary ∧
      ((performAll (noteCalls.map fun call => (Catalog.topicsAndNotes, call))).run r).result =
        .ok answers ∧
      let final :=
        ((performAll (noteCalls.map fun call => (Catalog.topicsAndNotes, call))).run r).state
      (final.data.find? (.str "about")).map Value.kind = some .record ∧
        final.header.valid = true ∧ final.toPlain =
          [(.str "text", .nil), (.str "about", .dict none (Catalog.topicEntries (.str "x")))] := by
  obtain ⟨⟨verdict, r⟩, hmake, hrun⟩ := @Act.exists_of_passes (Verdict × Record)
    (fun out =>
      let run := (performAll (noteCalls.map fun call => (Catalog.topicsAndNotes, call))).run out.2
      decide ((out.2.data.find? (.str "about")).map Value.kind = some .dictionary) &&
        Act.passes (fun _ => true) run.result &&
        decide ((run.state.data.find? (.str "about")).map Value.kind = some .record))
    (make Catalog.topicsAndNotes 2 (.dict none mistakenNote) .strict (some idleValidator) none
      .collecting).answer (by decide +kernel)
  simp only [Bool.and_eq_true, decide_eq_true_eq] at hrun
  obtain ⟨⟨hbefore, hok⟩, hafter⟩ := hrun
  obtain ⟨answers, hanswers, _⟩ := Act.exists_of_passes hok
  have hregistry : Catalog.topicsAndNotes.registryOf 2 = some 0 := by
    simp [Catalog.registryOf, Catalog.typeAt, Catalog.topicsAndNotes]
  have htypes : Catalog.topicsAndNotes.FindsTypesOnly (Catalog.topicsAndNotes.registryOf 2) :=
    hregistry ▸ Catalog.topicsAndNotes_selfContained.findsTypesOnly
  obtain ⟨_, _, hvalid, hplain, _⟩ := unchecked_run rfl htypes rfl
    (by simp [mistakenNote, Value.Throughout, ThroughoutEntries, Value.IsNoTuple]) hmake
    (by decide)
    (by simp [writesOf, noteCalls, Call.writes, Catalog.topicEntries, Value.Throughout,
      ThroughoutEntries, Value.IsNoTuple]) hanswers
  exact ⟨verdict, r, answers, hmake, hbefore, hanswers, hafter, (hvalid 2).1, hplain⟩

/-! ### Another registry inside -/

/-- Crates have labels, and both are registered in one place. Labels are registered in another one too,
where they look for their stamps; what is found there is no record type. -/
def depot : Catalog where
  types := [.root,
    { className := "Label", schemaName := "Label", registry := some 1,
      baseSchema := [(.str "stamp", .str "Stamp?")] },
    { className := "Crate", schemaName := "Crate", registry := some 0,
      baseSchema := [(.str "label", .str "Label?")] }]
  registries := [[("Label", .type 1), ("Crate", .type 2)],
    [("Stamp", .bound "Stamp"), ("Label", .type 1)]]

/-- The data of a crate with a stamp on its label. -/
def crateEntries : Entries Value :=
  [(.str "label", .dict none [(.str "stamp", .dict none [(.str "ink", .str "red")])])]

/-- The stamp on the label of a crate. -/
def stampOf (es : Entries Value) : Option Value :=
  ((es.find? (.str "label")).bind Value.entries?).bind (Entries.find? (.str "stamp"))

theorem finds_types_in_depot (name : String) (factory : Factory)
    (h : (depot.registryAt 0).find? name = some factory) : ∃ t, factory = .type t := by
  obtain ⟨e, hmem, rfl⟩ := Option.map_eq_some_iff.mp h
  have he : e ∈ [("Label", Factory.type 1), ("Crate", .type 2)] := List.mem_of_find?_eq_some hmem
  simp only [List.mem_cons, List.not_mem_nil, or_false] at he
  rcases he with rfl | rfl
  · exact ⟨1, rfl⟩
  · exact ⟨2, rfl⟩

/-- It is not enough that the registry of the type itself holds record types only: the stamp is lost. -/
theorem not_plain_in_depot :
    ¬ ∀ (cat : Catalog) (t : TypeId) (v : Validator) (mode : Mode) (entries : Entries Value)
        (verdict : Verdict) (r : Record), v.enabled = false →
      (∀ s, cat.registryOf t = some s → ∀ name factory,
        (cat.registryAt s).find? name = some factory → ∃ u, factory = .type u) →
      (∀ e ∈ entries, e.1.IsText ∧ e.2.IsTupleFree) →
      (make cat t (.dict none entries) mode (some v) none .none).answer = .ok (verdict, r) →
        r.toPlain = plainEntries entries := by
  intro h
  obtain ⟨⟨verdict, r⟩, hmake, hstamp⟩ := @Act.exists_of_passes (Verdict × Record)
    (fun out => decide ((stampOf out.2.toPlain).map Value.kind = some .record))
    (make depot 2 (.dict none crateEntries) .loose (some idleValidator) none .none).answer
    (by decide +kernel)
  have htypes : ∀ s, depot.registryOf 2 = some s → ∀ name factory,
      (depot.registryAt s).find? name = some factory → ∃ u, factory = .type u := by
    intro s hs name factory hfind
    obtain rfl : 0 = s := by simpa [Catalog.registryOf, Catalog.typeAt, depot] using hs
    exact finds_types_in_depot name factory hfind
  have hplain := h depot 2 idleValidator .loose crateEntries verdict r rfl htypes
    (by simp [crateEntries, Key.IsText, Value.Throughout, ThroughoutEntries, Value.IsNoTuple]) hmake
  rw [hplain] at hstamp
  exact absurd hstamp (by decide +kernel)

end Record

end TypedRecord
