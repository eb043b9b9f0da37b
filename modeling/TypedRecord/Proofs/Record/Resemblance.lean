import TypedRecord.Proofs.Listed
import TypedRecord.Proofs.Record.Calls
import TypedRecord.Proofs.Record.Settled

/-!
# TypedRecord.Proofs.Record.Resemblance

Records that differ in lists for tuples.

Reading an array may turn a tuple into a list. No validator looks at the difference, so records that
differ in that and in the last verdict (`Record.Resembles`) are judged alike, and a call that comes to an
end with both leaves records that resemble each other again (`Resembles.perform`). A write then has one
answer. A read need not have, and may build whatever it finds to build.

Calls that fail are left out: whether a finding can be reported is not compared here.
-/

namespace TypedRecord

namespace Record

variable {cat : Catalog}

/-! ### How calls come to an end -/

/-- A record that is judged is valid if its validator admits its data. -/
theorem valid_iff_admits {r : Record} {verdict : Verdict} (h : judgement cat r = .ok verdict) :
    verdict.valid = true ↔
      cat.Admits r.header.type.id r.header.validator r.header.mode r.data := by
  constructor
  · intro hvalid
    exact ⟨verdict, h, hvalid⟩
  · rintro ⟨reached, hreached, hvalid⟩
    obtain rfl := Except.ok.inj (hreached.symm.trans h)
    exact hvalid

theorem state_get_of_absent {r : Record} {field : Key} (h : r.data.find? field = none)
    (default : Value) : ((get cat field default).run r).state = r := by
  unfold get
  rw [Act.run_get_bind, h]
  rfl

/-- Reading a field that is there does to a record what storing its value does. -/
theorem get_eq_store {r : Record} {field : Key} {v default w : Value}
    (hfind : r.data.find? field = some v)
    (h : ((get cat field default).run r).result = .ok w) :
    ((get cat field default).run r).state = ((store cat field v).run r).state ∧
      ((store cat field v).run r).result = .ok () := by
  obtain ⟨hstate, hresult⟩ := run_store cat field v r
  have hlift : (Act.run (Act.lift (incoming? cat r.header field v)) r).result =
      (incoming? cat r.header field v).answer := rfl
  unfold get at h ⊢
  rw [Act.run_get_bind, hfind] at h ⊢
  rw [hstate, hresult]
  cases hincoming : (incoming? cat r.header field v).answer with
  | error failure =>
      rw [hincoming] at hlift
      rw [Act.run_bind_error hlift] at h
      cases h
  | ok replacement =>
      rw [hincoming] at hlift
      rw [Act.run_bind_ok hlift]
      cases replacement with
      | none => exact ⟨by simp [Entries.put_of_find? hfind], rfl⟩
      | some upgraded => exact ⟨rfl, rfl⟩

/-- Values that differ in lists for tuples come into a field as such values. -/
theorem listed_eq_of_incoming {header : Header} {field : Key} {v v' : Value}
    {replacement replacement' : Option Value} (hv : v'.listed = v.listed)
    (h : (incoming? cat header field v).answer = .ok replacement)
    (h' : (incoming? cat header field v').answer = .ok replacement') :
    (replacement'.getD v').listed = (replacement.getD v).listed := by
  rcases incoming?_cases h with ⟨hd, rfl⟩ | ⟨d, hd, hsettled⟩
  · rcases incoming?_cases h' with ⟨_, rfl⟩ | ⟨d', hd', _⟩
    · exact hv
    · rw [hd] at hd'
      cases hd'
  · rcases incoming?_cases h' with ⟨hd', _⟩ | ⟨d', hd', hsettled'⟩
    · rw [hd] at hd'
      cases hd'
    · rw [hd] at hd'
      cases hd'
      exact listed_eq_of_settled hv hsettled' hsettled

/-! ### Records that differ in lists for tuples -/

/-- A record that differs from another in lists for tuples and in the last verdict at most. -/
structure Resembles (r s : Record) : Prop where
  data_eq : listedEntries s.data = listedEntries r.data
  header_eq : ∃ last, s.header = { r.header with lastVerdict := last }

namespace Resembles

variable {r s u : Record}

theorem refl (r : Record) : Resembles r r := ⟨rfl, _, rfl⟩

theorem symm (h : Resembles r s) : Resembles s r := by
  obtain ⟨hdata, last, hheader⟩ := h
  exact ⟨hdata.symm, r.header.lastVerdict, by rw [hheader]⟩

theorem trans (h : Resembles r s) (h' : Resembles s u) : Resembles r u := by
  obtain ⟨hdata, last, hheader⟩ := h
  obtain ⟨hdata', last', hheader'⟩ := h'
  exact ⟨hdata'.trans hdata, last', by rw [hheader', hheader]⟩

theorem withVerdict (h : Resembles r s) (verdict verdict' : Verdict) :
    Resembles (r.withVerdict verdict) (s.withVerdict verdict') := by
  obtain ⟨hdata, last, hheader⟩ := h
  exact ⟨hdata, some verdict', by simp [Record.withVerdict, hheader]⟩

theorem asValid (h : Resembles r s) : Resembles r.asValid s.asValid := by
  obtain ⟨hdata, last, hheader⟩ := h
  exact ⟨hdata, last, by simp [Record.asValid, hheader]⟩

theorem asTainted (h : Resembles r s) : Resembles r.asTainted s.asTainted := by
  obtain ⟨hdata, last, hheader⟩ := h
  exact ⟨hdata, last, by simp [Record.asTainted, hheader]⟩

/-- What is wrapped for one is wrapped alike for the other. -/
theorem incoming?_eq (h : Resembles r s) (field : Key) (v : Value) :
    incoming? cat s.header field v = incoming? cat r.header field v := by
  obtain ⟨_, last, hheader⟩ := h
  exact incoming?_congr (by rw [hheader]) (by rw [hheader]) (by rw [hheader]) field v

/-- A field that one has the other has, with the same value but for tuples. -/
theorem find?_eq (h : Resembles r s) (field : Key) :
    (s.data.find? field).map Value.listed = (r.data.find? field).map Value.listed := by
  rw [← find?_listedEntries, ← find?_listedEntries, h.data_eq]

/-- Both are judged alike, as far as they are judged. -/
theorem valid_eq (h : Resembles r s) {verdict verdict' : Verdict}
    (hr : judgement cat r = .ok verdict) (hs : judgement cat s = .ok verdict') :
    verdict.valid = verdict'.valid := by
  obtain ⟨hdata, last, hheader⟩ := h
  rw [Bool.eq_iff_iff, valid_iff_admits hr, valid_iff_admits hs, hheader,
    ← Catalog.admits_listed _ _ _ _ s.data, hdata, Catalog.admits_listed]

/-! ### Writes -/

/-- Values that differ in lists for tuples are stored as such values. -/
theorem store (h : Resembles r s) {field : Key} {v v' : Value} (hv : v'.listed = v.listed)
    (hr : ((Record.store cat field v).run r).result = .ok ())
    (hs : ((Record.store cat field v').run s).result = .ok ()) :
    Resembles ((Record.store cat field v).run r).state ((Record.store cat field v').run s).state := by
  obtain ⟨hstate, hresult⟩ := run_store cat field v r
  obtain ⟨hstate', hresult'⟩ := run_store cat field v' s
  rw [h.incoming?_eq] at hstate' hresult'
  cases hin : (incoming? cat r.header field v).answer with
  | error failure => rw [hresult, hin] at hr; cases hr
  | ok replacement =>
      cases hin' : (incoming? cat r.header field v').answer with
      | error failure => rw [hresult', hin'] at hs; cases hs
      | ok replacement' =>
          rw [hstate, hstate', hin, hin']
          refine ⟨?_, h.header_eq⟩
          rw [listedEntries_put, listedEntries_put, h.data_eq, listed_eq_of_incoming hv hin hin']

theorem storeAll (h : Resembles r s) {fields : List (Key × Value)}
    (hr : ((Record.storeAll cat fields).run r).result = .ok ())
    (hs : ((Record.storeAll cat fields).run s).result = .ok ()) :
    Resembles ((Record.storeAll cat fields).run r).state
      ((Record.storeAll cat fields).run s).state := by
  induction fields generalizing r s with
  | nil => exact h
  | cons e rest ih =>
      obtain ⟨field, v⟩ := e
      rw [Record.storeAll, Act.result_bind] at hr hs
      obtain ⟨_, hfirst, hrest⟩ := Act.bind_eq_ok.mp hr
      obtain ⟨_, hfirst', hrest'⟩ := Act.bind_eq_ok.mp hs
      simp only [Record.storeAll, Act.state_bind, hfirst, hfirst']
      exact ih (h.store rfl hfirst hfirst') hrest hrest'

theorem stores (h : Resembles r s) {request : Call}
    (hr : ((request.stores cat).run r).result = .ok ())
    (hs : ((request.stores cat).run s).result = .ok ()) :
    Resembles ((request.stores cat).run r).state ((request.stores cat).run s).state := by
  cases request with
  | set field v | assign field v => exact h.store rfl hr hs
  | update fields => exact h.storeAll hr hs
  | _ => exact h

/-- Writes that come to an end answer the same, and leave records that resemble each other. -/
theorem written (h : Resembles r s) {stored stored' : Outcome Record Unit}
    (hstored : stored.result = .ok () → stored'.result = .ok () →
      Resembles stored.state stored'.state)
    {shown shown' : Except Failure String} {valid valid' : Bool} {r' s' : Record}
    (hr : Written cat r stored shown r' (.ok valid))
    (hs : Written cat s stored' shown' s' (.ok valid')) : valid = valid' ∧ Resembles r' s' := by
  obtain ⟨hok, verdict, hjudged, rfl, rfl⟩ := hr.ended
  obtain ⟨hok', verdict', hjudged', rfl, rfl⟩ := hs.ended
  have hnext := hstored hok hok'
  have hvalid := hnext.valid_eq hjudged hjudged'
  have hmode : s.header.mode = r.header.mode := by
    obtain ⟨_, last, hheader⟩ := h
    rw [hheader]
  refine ⟨hvalid, ?_⟩
  rw [← hvalid, hmode]
  split
  · exact (hnext.withVerdict verdict verdict').asValid
  · split
    · exact h.withVerdict verdict verdict'
    · exact (hnext.withVerdict verdict verdict').asTainted

theorem perform_write (h : Resembles r s) {request : Call} {act : Act Record Bool}
    (hwrite : request.write? cat = some act) {answer answer' : Answer}
    (hr : ((request.perform cat).run r).result = .ok answer)
    (hs : ((request.perform cat).run s).result = .ok answer') :
    answer = answer' ∧
      Resembles ((request.perform cat).run r).state ((request.perform cat).run s).state := by
  obtain ⟨shown, hwritten⟩ := Call.written hwrite r
  obtain ⟨shown', hwritten'⟩ := Call.written hwrite s
  rw [Call.result_of_write hwrite] at hr hs
  obtain ⟨valid, hvalid, rfl⟩ := Act.map_eq_ok.mp hr
  obtain ⟨valid', hvalid', rfl⟩ := Act.map_eq_ok.mp hs
  rw [hvalid] at hwritten
  rw [hvalid'] at hwritten'
  obtain ⟨rfl, hnext⟩ := h.written (fun hok hok' => h.stores hok hok') hwritten hwritten'
  rw [(Call.perform_write hwrite r).1, (Call.perform_write hwrite s).1]
  exact ⟨rfl, hnext⟩

/-! ### Reads -/

/-- A read that two runs take together leaves records that resemble each other, whatever it builds. -/
theorem get (h : Resembles r s) {field : Key} {default v v' : Value}
    (hr : ((Record.get cat field default).run r).result = .ok v)
    (hs : ((Record.get cat field default).run s).result = .ok v') :
    Resembles ((Record.get cat field default).run r).state
      ((Record.get cat field default).run s).state := by
  have hfind := h.find?_eq field
  cases hfound : r.data.find? field with
  | none =>
      rw [hfound, Option.map_none, Option.map_eq_none_iff] at hfind
      rw [state_get_of_absent hfound, state_get_of_absent hfind]
      exact h
  | some w =>
      rw [hfound, Option.map_some] at hfind
      obtain ⟨w', hfound', hlisted⟩ := Option.map_eq_some_iff.mp hfind
      obtain ⟨hstate, hstored⟩ := get_eq_store hfound hr
      obtain ⟨hstate', hstored'⟩ := get_eq_store hfound' hs
      rw [hstate, hstate']
      exact h.store hlisted hstored hstored'

end Resembles

theorem getPresent_eq_get {r : Record} {field : Key} {v : Value}
    (h : ((getPresent cat field).run r).result = .ok v) :
    (getPresent cat field).run r = (get cat field .nil).run r := by
  unfold getPresent at h ⊢
  rw [Act.run_get_bind] at h ⊢
  cases hfield : r.data.has field with
  | true => rfl
  | false => rw [hfield] at h; cases h

theorem Resembles.getPresent {r s : Record} (h : Resembles r s) {field : Key} {v v' : Value}
    (hr : ((Record.getPresent cat field).run r).result = .ok v)
    (hs : ((Record.getPresent cat field).run s).result = .ok v') :
    Resembles ((Record.getPresent cat field).run r).state
      ((Record.getPresent cat field).run s).state := by
  have hget := getPresent_eq_get hr
  have hget' := getPresent_eq_get hs
  rw [hget] at hr ⊢
  rw [hget'] at hs ⊢
  exact h.get hr hs

/-- One call on the fields of records that resemble each other: if it comes to an end with both, they
resemble each other after it, and a write has one answer. -/
theorem Resembles.perform {r s : Record} (h : Resembles r s) {request : Call}
    (hfields : request.onFields = true) {answer answer' : Answer}
    (hr : ((request.perform cat).run r).result = .ok answer)
    (hs : ((request.perform cat).run s).result = .ok answer') :
    (request.isRead = false → answer = answer') ∧
      Resembles ((request.perform cat).run r).state ((request.perform cat).run s).state := by
  cases request with
  | set field v | assign field v | update fields =>
      obtain ⟨hanswers, hnext⟩ := h.perform_write rfl hr hs
      exact ⟨fun _ => hanswers, hnext⟩
  | get field default =>
      simp only [Call.perform, Act.run_bind_pure] at hr hs ⊢
      obtain ⟨v, hv, _⟩ := Act.map_eq_ok.mp hr
      obtain ⟨v', hv', _⟩ := Act.map_eq_ok.mp hs
      refine ⟨fun hwrite => ?_, h.get hv hv'⟩
      cases hwrite
  | getPresent field =>
      simp only [Call.perform, Act.run_bind_pure] at hr hs ⊢
      obtain ⟨v, hv, _⟩ := Act.map_eq_ok.mp hr
      obtain ⟨v', hv', _⟩ := Act.map_eq_ok.mp hs
      refine ⟨fun hwrite => ?_, h.getPresent hv hv'⟩
      cases hwrite
  | _ => cases hfields

end Record

end TypedRecord
