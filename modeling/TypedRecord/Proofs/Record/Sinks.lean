import TypedRecord.Record.Request
import TypedRecord.Proofs.Findings
import TypedRecord.Proofs.ValidateData
import TypedRecord.Proofs.Record.Calls
import TypedRecord.Proofs.Record.Likeness

/-!
# TypedRecord.Proofs.Record.Sinks

Sinks have no say.

A sink decides what is reported, and a broken one fails at every event; but an event is delivered so
that neither shows in the operation that reports it (`Act.Tracks.of_deliver`). What has a sink is
compared by being *muted*, with all its sinks taken away. Validators that are the same when muted judge
alike, records that are the same when muted are a likeness, and runs of requests that are the same when
muted get the same replies and leave the same records, but for the sinks in them
(`performAll_regardless_of_sinks`).
-/

namespace TypedRecord

/-- A validator with its sink taken away. -/
def Validator.muted (v : Validator) : Validator := { v with sink := .none }

@[simp] theorem Validator.registry_muted (v : Validator) : v.muted.registry = v.registry := rfl

@[simp] theorem Validator.enabled_muted (v : Validator) : v.muted.enabled = v.enabled := rfl

@[simp] theorem Validator.excerpt_muted (v : Validator) : v.muted.excerpt = v.excerpt := rfl

/-- A setup with its sinks taken away. -/
def Setup.muted (setup : Setup) : Setup :=
  { setup with validator := setup.validator.muted, sink := .none }

/-- A record with its sinks taken away: its own, and that of its validator. -/
def Record.muted (r : Record) : Record :=
  { r with header := { r.header with validator := r.header.validator.muted, sink := .none } }

/-- A request with its sinks taken away. -/
def Record.Request.muted : Request → Request
  | .make checked t data mode validator registry _ =>
    .make checked t data mode (validator.map Validator.muted) registry .none
  | .validate t data mode validator exhaustive =>
    .validate t data mode (validator.map Validator.muted) exhaustive
  | .call place asked => .call place asked

namespace Catalog

variable {cat : Catalog} {t : TypeId} {mode : Mode}

/-! ### Judging -/

/-- The sink of a validator has no say in its verdict. -/
theorem answer_validate_muted (known : Option (List String)) (v : Validator) (data : Value)
    (schema : Schema) (label : Option String) :
    (validate known v.muted data schema mode label).answer =
      (validate known v data schema mode label).answer := by
  rw [answer_validate, answer_validate]
  rfl

theorem answer_collect_muted (known : Option (List String)) (v : Validator) (data : Value)
    (schema : Schema) (label : Option String) :
    (collect known v.muted data schema mode label).answer =
      (collect known v data schema mode label).answer := by
  cases henabled : v.enabled with
  | true =>
      rw [answer_collect henabled, answer_collect (v := v.muted) henabled, Validator.excerpt_muted]
  | false => simp [collect, henabled]

theorem answer_validateAs_muted (v : Validator) (data : Entries Value) :
    (cat.validateAs t v.muted mode data).answer = (cat.validateAs t v mode data).answer := by
  rw [validateAs, Validator.registry_muted, answer_validate_muted]
  rfl

theorem answer_validateData_muted (data : Value) (validator : Option Validator)
    (exhaustive : Bool) :
    (cat.validateData t data mode (validator.map Validator.muted) exhaustive).answer =
      (cat.validateData t data mode validator exhaustive).answer := by
  cases validator with
  | none => rfl
  | some v =>
      simp only [validateData, Act.answer_bind, Act.answer_ofExcept, Option.map_some,
        Option.getD_some, Validator.registry_muted]
      cases exhaustive with
      | true => simp only [if_true, answer_collect_muted]
      | false => simp only [Bool.false_eq_true, if_false, answer_validate_muted]

/-! ### Making records -/

theorem setupFor_muted (validator : Option Validator) (registry : Option RegistryId) (sink : Sink) :
    (cat.setupFor t (validator.map Validator.muted) registry .none).muted =
      (cat.setupFor t validator registry sink).muted := by
  cases validator <;> rfl

/-- The sinks that a record is set up with are all that they leave in it. -/
theorem answer_judge_muted (setup : Setup) (candidate : Entries Value) :
    (cat.judge t mode setup.muted candidate).answer =
      (cat.judge t mode setup candidate).answer.map fun out => (out.1, out.2.muted) := by
  by_cases hschema : cat.schemaOf t = []
  · simp only [judge, hschema, if_true, Act.answer_pure]
    rfl
  · rw [answer_judge hschema, answer_judge hschema, Setup.muted, answer_validateAs_muted]
    cases (cat.validateAs t setup.validator mode candidate).answer <;> rfl

theorem answer_construct_muted (setup : Setup) (entries : Entries Value) :
    (cat.construct t mode setup.muted entries).answer =
      (cat.construct t mode setup entries).answer.map fun out => (out.1, out.2.muted) := by
  simp only [construct, Act.answer_bind, Act.answer_ofExcept, answer_judge_muted, Act.map_bind]
  rfl

end Catalog

namespace Record

variable {cat : Catalog}

/-- Records that are made with other sinks differ in these sinks. -/
theorem answer_make_congr (t : TypeId) (data : Value) (mode : Mode) {v v' : Option Validator}
    (hv : v.map Validator.muted = v'.map Validator.muted) (registry : Option RegistryId)
    (sink sink' : Sink) :
    (make cat t data mode v registry sink).answer.map (fun out => (out.1, out.2.muted)) =
      (make cat t data mode v' registry sink').answer.map fun out => (out.1, out.2.muted) := by
  have hsetup : (cat.setupFor t v registry sink).muted = (cat.setupFor t v' registry sink').muted := by
    rw [← Catalog.setupFor_muted, hv, Catalog.setupFor_muted]
  simp only [make, Act.answer_bind, Act.answer_ofExcept, Act.map_bind,
    ← Catalog.answer_construct_muted, hsetup]

theorem answer_makeChecked (t : TypeId) (data : Value) (mode : Mode) (v : Option Validator)
    (registry : Option RegistryId) (sink : Sink) :
    (makeChecked cat t data mode v registry sink).answer =
      (make cat t data mode v registry sink).answer >>= fun out =>
        if out.1.valid then .ok out
        else .error (.rejected (cat.typeAt t).schemaName out.1.first?) := by
  rw [makeChecked, Act.answer_bind]
  congr 1
  funext ⟨verdict, r⟩
  by_cases hvalid : verdict.valid = true <;> simp only [hvalid] <;> rfl

theorem answer_makeChecked_congr (t : TypeId) (data : Value) (mode : Mode) {v v' : Option Validator}
    (hv : v.map Validator.muted = v'.map Validator.muted) (registry : Option RegistryId)
    (sink sink' : Sink) :
    (makeChecked cat t data mode v registry sink).answer.map (fun out => (out.1, out.2.muted)) =
      (makeChecked cat t data mode v' registry sink').answer.map fun out => (out.1, out.2.muted) := by
  have hchecked (e : Except Failure (Verdict × Record)) :
      (e >>= fun out => if out.1.valid then .ok out
        else .error (.rejected (cat.typeAt t).schemaName out.1.first?)).map
          (fun out => (out.1, out.2.muted)) =
        (e.map fun out => (out.1, out.2.muted)) >>= fun out => if out.1.valid then .ok out
          else .error (.rejected (cat.typeAt t).schemaName out.1.first?) := by
    cases e with
    | error failure => rfl
    | ok out =>
        by_cases hvalid : out.1.valid = true <;> simp [Act.ok_bind, Except.map, hvalid]
  rw [answer_makeChecked, answer_makeChecked, hchecked, hchecked,
    answer_make_congr t data mode hv registry sink sink']

/-! ### Calls -/

/-- A record that differs from another in sinks at most. -/
def SameMuted (r s : Record) : Prop := s.muted = r.muted

theorem judgement_muted (r : Record) : judgement cat r.muted = judgement cat r :=
  Catalog.answer_validateAs_muted r.header.validator r.data

/-- Sinks have no say in how a record is called on. -/
theorem dataLikeness_sameMuted (cat : Catalog) : DataLikeness cat SameMuted where
  role_eq {r s} h := by
    have htype : s.muted.header.type = r.muted.header.type := by rw [h]
    have hmode : s.muted.header.mode = r.muted.header.mode := by rw [h]
    have hregistry : s.muted.header.registry = r.muted.header.registry := by rw [h]
    exact ⟨htype, hmode, hregistry⟩
  judgement_eq h := by rw [← judgement_muted, h, judgement_muted]
  withVerdict h verdict := congrArg (Record.withVerdict · verdict) h
  asValid h := congrArg Record.asValid h
  asTainted h := congrArg Record.asTainted h
  data_eq {r s} h := by
    have hdata : s.muted.data = r.muted.data := by rw [h]
    exact hdata
  withData {r s} h data := by
    have hwith : { s.muted with data := data } = { r.muted with data := data } := by rw [h]
    exact hwith

/-! ### Runs -/

namespace Request

/-- Records that differ from others in sinks at most. -/
def AllSameMuted (records others : List Record) : Prop :=
  others.map Record.muted = records.map Record.muted

/-- What is done alike to records that are the same when muted is done alike at a place. -/
theorem tracks_atPlace {α : Type} {act : Act Record α} (hact : Act.Tracks SameMuted act act)
    (place : Nat) : Act.Tracks AllSameMuted (atPlace place act) (atPlace place act) := by
  intro records others h
  have hplace : (others[place]?).map Record.muted = (records[place]?).map Record.muted := by
    rw [← List.getElem?_map, h, List.getElem?_map]
  unfold Act.run atPlace
  cases hrecord : records[place]? with
  | none =>
      rw [hrecord, Option.map_none, Option.map_eq_none_iff] at hplace
      rw [hplace]
      exact ⟨h, rfl⟩
  | some r =>
      rw [hrecord, Option.map_some] at hplace
      obtain ⟨s, hother, hmuted⟩ := Option.map_eq_some_iff.mp hplace
      obtain ⟨hstates, hresults⟩ := hact r s hmuted
      rw [hother]
      refine ⟨?_, hresults⟩
      rw [AllSameMuted, List.map_set, List.map_set, h]
      exact congrArg _ hstates

/-- One request, whatever sinks it brings along. -/
theorem tracks_perform {q q' : Request} (h : q.muted = q'.muted) :
    Act.Tracks AllSameMuted (q.perform cat) (q'.perform cat) := by
  cases q with
  | make checked t data mode v registry sink =>
      cases q' with
      | make checked' t' data' mode' v' registry' sink' =>
          simp only [muted, make.injEq] at h
          obtain ⟨rfl, rfl, rfl, rfl, hv, rfl, _⟩ := h
          refine .lift_bind (fun out : Verdict × Record => (out.1, out.2.muted)) ?_ ?_
          · cases checked with
            | true => exact answer_makeChecked_congr t data mode hv registry sink sink'
            | false => exact answer_make_congr t data mode hv registry sink sink'
          · rintro ⟨verdict, r⟩ ⟨verdict', r'⟩ hout
            obtain ⟨hverdict, hmuted⟩ := Prod.mk.inj hout
            obtain rfl : verdict = verdict' := hverdict
            have hlast : r'.muted = r.muted := hmuted.symm
            refine .bind (.of_modify fun records others hrecords => ?_) fun _ => .of_pure _
            rw [AllSameMuted, List.map_append, List.map_append, hrecords, List.map_singleton,
              List.map_singleton, hlast]
      | _ => cases h
  | validate t data mode v exhaustive =>
      cases q' with
      | validate t' data' mode' v' exhaustive' =>
          simp only [muted, validate.injEq] at h
          obtain ⟨rfl, rfl, rfl, hv, rfl⟩ := h
          refine .bind (.of_lift ?_) fun _ => .of_pure _
          rw [← Catalog.answer_validateData_muted, hv, Catalog.answer_validateData_muted]
      | _ => cases h
  | call place asked =>
      cases q' with
      | call place' asked' =>
          obtain ⟨rfl, rfl⟩ := Request.call.inj h
          exact .bind (tracks_atPlace ((dataLikeness_sameMuted cat).perform asked) place) fun _ =>
            .of_pure _
      | _ => cases h

/-- Requests with their sinks taken away, each with its catalog. -/
def allMuted (requests : List (Catalog × Request)) : List (Catalog × Request) :=
  requests.map fun c => (c.1, c.2.muted)

theorem tracks_performAll {requests others : List (Catalog × Request)}
    (h : allMuted requests = allMuted others) :
    Act.Tracks AllSameMuted (performAll requests) (performAll others) := by
  induction requests generalizing others with
  | nil =>
      obtain rfl : others = [] := List.map_eq_nil_iff.mp h.symm
      exact .of_pure []
  | cons c requests ih =>
      cases others with
      | nil => cases h
      | cons c' others =>
          obtain ⟨cat, q⟩ := c
          obtain ⟨cat', q'⟩ := c'
          obtain ⟨hhead, hrest⟩ := List.cons.inj h
          obtain ⟨hcat, hmuted⟩ := Prod.mk.inj hhead
          obtain rfl : cat = cat' := hcat
          exact .bind (.of_attempt (tracks_perform hmuted)) fun _ => .bind (ih hrest) fun _ =>
            .of_pure _

/-- A run comes to an end, whatever its requests come to. -/
theorem exists_replies (requests : List (Catalog × Request)) (records : List Record) :
    ∃ replies, ((performAll requests).run records).result = .ok replies := by
  induction requests generalizing records with
  | nil => exact ⟨[], rfl⟩
  | cons c rest ih =>
      obtain ⟨replies, hreplies⟩ := ih ((Act.attempt (c.2.perform c.1)).run records).state
      exact ⟨_, Act.inTurn_cons_eq_ok.mpr ⟨_, replies, rfl, hreplies, rfl⟩⟩

/-- Two runs of requests that differ in the sinks they bring along, with records that differ in the sinks
they have, get the same replies, failures among them. The records that they leave differ in sinks at
most; what they hold and whether they are valid and tainted is the same. -/
theorem performAll_regardless_of_sinks {requests others : List (Catalog × Request)}
    (hrequests : allMuted requests = allMuted others) {records rivals : List Record}
    (hrecords : AllSameMuted records rivals) :
    let final := ((performAll requests).run records).state
    let final' := ((performAll others).run rivals).state
    (∃ replies, ((performAll requests).run records).result = .ok replies ∧
      ((performAll others).run rivals).result = .ok replies) ∧
    AllSameMuted final final' ∧
    (final'.map fun r => (r.data, r.header.valid, r.header.tainted)) =
      final.map fun r => (r.data, r.header.valid, r.header.tainted) := by
  obtain ⟨hstates, hresults⟩ := tracks_performAll hrequests records rivals hrecords
  obtain ⟨replies, hreplies⟩ := exists_replies requests records
  refine ⟨⟨replies, hreplies, hresults.symm.trans hreplies⟩, hstates, ?_⟩
  -- Muting touches none of the three.
  have hviews := congrArg
    (List.map fun r : Record => (r.data, r.header.valid, r.header.tainted)) hstates
  rw [List.map_map, List.map_map] at hviews
  exact hviews

/-- A counter is made, a write to it is taken back, data is reported on, a counter is refused, and side
data is written, all with one sink. -/
def counterRequests (sink : Sink) : List (Catalog × Request) :=
  [.make false 1 (.dict none [(.str "count", .int 1)]) .strict (some { sink := sink }) none sink,
    .call 0 (.set (.str "count") (.str "many")),
    .validate 1 (.dict none []) .loose (some { sink := sink }) true,
    .make true 1 (.dict none []) .strict none none sink,
    .call 0 (.sidePut (.str "owner") (.str "seen") (.bool true))].map fun q => (counters, q)

/-- A broken sink gets the same replies as a collecting one, though other things are reported. -/
theorem performAll_with_broken_sink :
    (∃ replies, ((performAll (counterRequests .broken)).run []).result = .ok replies ∧
      ((performAll (counterRequests .collecting)).run []).result = .ok replies) ∧
    ((performAll (counterRequests .broken)).run []).notices ≠
      ((performAll (counterRequests .collecting)).run []).notices := by
  have hrequests : allMuted (counterRequests .broken) = allMuted (counterRequests .collecting) := rfl
  have hrecords : AllSameMuted [] [] := rfl
  exact ⟨(performAll_regardless_of_sinks hrequests hrecords).1, by decide +kernel⟩

end Request

end Record

end TypedRecord
