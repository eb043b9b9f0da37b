import TypedRecord.Proofs.Sharing
import TypedRecord.Proofs.Record.SideEntries
import TypedRecord.Proofs.Record.StrictRuns

/-!
# TypedRecord.Proofs.Record.SharedRuns

What holds of a strict record between calls, where its parts are objects.

Side data is assigned to in place and without being judged. If the object that is assigned to also stands
in a field, the field changes with it. That a field still matches its descriptor is sure for mappings,
records and buffers, of which a descriptor sees nothing that may change (`sameLooks_of_changed`). It is
not for lists: `sharedList_escapes` is a strict record that counts as valid while its validator rejects
its data. So a strict record stays committed in runs that leave the lists in its fields alone
(`strict_run_shared`).

Nothing of this arises where what a call changes stands in one place. Then calls do what they do to trees
(`performShared_eq_perform`), and so do runs (`performAllShared_eq_performAll`); calls on fields always do.
-/

namespace TypedRecord

namespace SideData

variable {cat : Catalog} {r : Record} {α : Type}

/-! ### What is changed in place keeps its looks -/

theorem sameLooks_toValue {mark : Mark} {header : Header} {data : Entries Value} {s : Record}
    (h : s.header.type = header.type) :
    (Value.record mark header data).SameLooks (s.toValue mark) := by
  refine ⟨rfl, ?_⟩
  simp only [Record.toValue, Value.schema?, h]

/-- An assignment leaves what is no sequence with the same looks. -/
theorem sameLooks_assign (cat : Catalog) (key v : Value) {w : Value} (hw : w.items? = none) :
    w.SameLooks ((assign cat key v).run w).state := by
  unfold assign
  rw [Act.run_get_bind]
  cases w with
  | list _ _ | tuple _ _ => simp [Value.items?] at hw
  | dict mark entries => cases key.asKey <;> exact ⟨rfl, rfl⟩
  | record mark header data =>
      cases key.asKey with
      | error failure => exact .refl _
      | ok k =>
          have hrole := (Record.called cat (.set k v) ⟨header, data⟩).role_eq.1
          simp only [Record.Call.perform, Act.run_bind_pure] at hrole
          rw [Act.run_ofExcept_bind, Act.run_bind_pure]
          exact sameLooks_toValue hrole
  | buffer mark data =>
      cases key.position? with
      | none => exact .refl _
      | some position =>
          cases byteOf v with
          | error failure => exact .refl _
          | ok byte =>
              dsimp only
              rw [Act.run_ofExcept_bind]
              cases placeOf data.length position with
              | error failure => exact .refl _
              | ok i => exact Value.SameLooks.mk rfl rfl
  | _ => exact .refl _

theorem maintains_readFields (cat : Catalog) (type : TypeName) (keys : List Key) :
    Act.Maintains (fun s : Record => s.header.type = type) (readFields cat keys) := by
  induction keys with
  | nil => exact .of_pure []
  | cons k ks ih =>
      refine .bind (fun s hs => ?_) fun v => .bind ih fun rest => .of_pure _
      rw [(Record.read_getPresent cat k s).header_eq]
      exact hs

/-- Looking something up in a record leaves a record of the same type. -/
theorem sameLooks_lookUp (cat : Catalog) (key default : Value) (mark : Mark) (header : Header)
    (data : Entries Value) :
    (Value.record mark header data).SameLooks
      ((lookUp cat key default).run (.record mark header data)).state := by
  unfold lookUp
  rw [Act.run_get_bind]
  cases key.asKey with
  | error failure => exact .refl _
  | ok k =>
      have hread := Record.read_get cat k default ⟨header, data⟩
      exact sameLooks_toValue (congrArg Header.type hread.header_eq)

theorem sameLooks_contents (cat : Catalog) (mark : Mark) (header : Header) (data : Entries Value) :
    (Value.record mark header data).SameLooks
      ((contents cat).run (.record mark header data)).state := by
  unfold contents
  rw [Act.run_get_bind]
  exact sameLooks_toValue (maintains_readFields cat header.type _ ⟨header, data⟩ rfl)

end SideData

namespace Record

variable {cat cat' : Catalog} {t : TypeId} {v : Validator} {r s : Record} {self : Mark}

theorem Call.standing?_eq_some_iff {field : Key} {call : Call} {w : Value} :
    call.standing? field r = some w ↔ ∃ owner o, call.owner? = some owner ∧ owner.toKey? = some o ∧
      SideData.standing? field o r = some w := by
  simp [Call.standing?, Option.bind_eq_some_iff]

/-- What a call changes under its owner, other than a sequence, has the same looks afterwards. -/
theorem sameLooks_of_changed {call : Call} {old new : Value} (hchanges : call.changes old = true)
    (hold : call.standing? (SideData.fieldOf cat r) r = some old)
    (hnew : call.standing? (SideData.fieldOf cat r) ((call.perform cat).run r).state = some new)
    (hitems : old.items? = none) : old.SameLooks new := by
  obtain ⟨owner, o, howner, ho, hbefore⟩ := Call.standing?_eq_some_iff.mp hold
  obtain ⟨owner', o', howner', ho', hafter⟩ := Call.standing?_eq_some_iff.mp hnew
  obtain rfl := Option.some.inj (howner.symm.trans howner')
  obtain rfl := Option.some.inj (ho.symm.trans ho')
  -- Each of these calls runs an operation on the entry, and leaves there what becomes of it.
  cases call with
  | sidePut _ key value =>
      obtain rfl := Option.some.inj howner
      simp only [Call.perform, Act.run_bind_pure, SideData.run_put_of_entry hbefore ho,
        (SideData.run_atOwner hbefore _).2.2.2] at hafter
      obtain rfl := Option.some.inj hafter
      exact SideData.sameLooks_assign cat key value hitems
  | sideFind _ key default =>
      obtain rfl := Option.some.inj howner
      simp only [Call.perform, Act.run_bind_pure, SideData.run_find_of_entry hbefore ho,
        (SideData.run_atOwner hbefore _).2.2.2] at hafter
      obtain rfl := Option.some.inj hafter
      cases old with
      | record mark header data => exact SideData.sameLooks_lookUp cat key default mark header data
      | _ => cases hchanges
  | sideAll _ =>
      obtain rfl := Option.some.inj howner
      simp only [Call.perform, Act.run_bind_pure, SideData.run_all_of_entry hbefore ho,
        (SideData.run_atOwner hbefore _).2.2.2] at hafter
      obtain rfl := Option.some.inj hafter
      cases old with
      | record mark header data => exact SideData.sameLooks_contents cat mark header data
      | _ => cases hchanges
  | _ => cases hchanges

/-! ### What an exchange shows -/

/-- Where an object is exchanged, validators see what they saw before, if it is no sequence and keeps its
looks, or if it is a sequence that they do not meet. -/
theorem seenAs_exchange {old new : Value} (hlooks : old.items? = none → old.SameLooks new)
    (hspared : old.items?.isSome → ∀ e ∈ cat.visible t r.data, e.2.meetsSequence old.isOne = false) :
    (cat.visible t r.data).SeenAs (cat.visible t (r.exchange old new).data) := by
  rw [exchange, Catalog.visible_reviseEntries]
  refine Entries.seenAs_revise (Value.keepsLooks_exchange hlooks) fun e he => ?_
  rw [Value.isSome_exchange]
  cases hitems : old.items? with
  | none => exact Value.meetsSequence_of_no_items hitems e.2
  | some items => exact hspared (by rw [hitems]; rfl) e he

theorem Call.onFields_of_owner {call : Call} {owner : Value} (h : call.owner? = some owner) :
    call.onFields = false := by
  cases call with
  | set _ _ | assign _ _ | update _ | get _ _ | getPresent _ => cases h
  | _ => rfl

/-- A sequence that a call assigns to stands in no field that a validator sees. -/
def Call.Spares (cat : Catalog) (call : Call) (r : Record) : Prop :=
  ∀ old, call.standing? (SideData.fieldOf cat r) r = some old → call.changes old = true →
    old.items?.isSome → ∀ e ∈ cat.visible r.header.type.id r.data, e.2.meetsSequence old.isOne = false

/-- What a call changes under its owner may be changed wherever it stands: validators do not see it. -/
theorem seenAs_spreadEntry {call : Call} {owner : Value} (howner : call.owner? = some owner)
    (hspares : call.Spares cat r) :
    (cat.visible r.header.type.id r.data).SeenAs (cat.visible r.header.type.id
      (call.spreadEntry (SideData.fieldOf cat r) r ((call.perform cat).run r).state).data) := by
  -- The call on its own touches the reserved field only; what is seen can change by the exchange alone.
  have hbeside : r.Beside cat ((call.perform cat).run r).state :=
    Call.beside_of_onFields (Call.onFields_of_owner howner) r
  unfold Call.spreadEntry
  split
  · next old new hold hnew =>
      split
      · next hchanges =>
          rw [← hbeside.visible_eq]
          refine seenAs_exchange (sameLooks_of_changed hchanges hold hnew) fun hitems => ?_
          rw [hbeside.visible_eq]
          exact hspares old hold hchanges hitems
      · rw [hbeside.visible_eq]
        exact .refl _
  · rw [hbeside.visible_eq]
    exact .refl _

/-- So may the side data itself, which is a mapping. Other calls change nothing in place. -/
theorem seenAs_spread (call : Call) (hspares : call.Spares cat r) :
    (cat.visible r.header.type.id ((call.perform cat).run r).state.data).SeenAs
      (cat.visible r.header.type.id
        (call.spread (SideData.fieldOf cat r) r ((call.perform cat).run r).state).data) := by
  unfold Call.spread
  split
  · next owner mark entries howner hstore =>
      have hbeside : r.Beside cat ((call.perform cat).run r).state :=
        Call.beside_of_onFields (Call.onFields_of_owner howner) r
      rw [hbeside.visible_eq]
      refine (seenAs_spreadEntry howner hspares).trans (seenAs_exchange ?_ ?_)
      -- Whatever entries it has, a mapping has the looks of one.
      · exact fun _ => ⟨rfl, rfl⟩
      · simp [Value.items?]
  · exact .refl _

theorem header_spreadEntry (field : Key) (call : Call) (before after : Record) :
    (call.spreadEntry field before after).header = after.header := by
  unfold Call.spreadEntry
  split
  · split <;> rfl
  · rfl

theorem header_spread (field : Key) (call : Call) (before after : Record) :
    (call.spread field before after).header = after.header := by
  unfold Call.spread
  split
  · exact header_spreadEntry field call before after
  · rfl

/-! ### Objects that stand in one place -/

theorem run_performShared (cat : Catalog) (self : Mark) (call : Call) (r : Record) :
    (call.performShared cat self).run r =
      ⟨(call.redirected cat self r).spread (SideData.fieldOf cat r) r
          (((call.redirected cat self r).perform cat).run r).state,
        (((call.redirected cat self r).perform cat).run r).notices,
        (((call.redirected cat self r).perform cat).run r).result⟩ := rfl

theorem exchange_of_unmarked {old : Value} (h : old.mark = none) (new : Value) (r : Record) :
    r.exchange old new = r := by
  unfold exchange
  rw [Value.reviseEntries_eq_self]
  exact fun v => if_neg (by simp [Value.isOne_of_unmarked h v])

/-- Neither the side data that a call is about nor what stands in it under the owner can stand anywhere
else. -/
structure Call.IsApart (cat : Catalog) (call : Call) (r : Record) : Prop where
  store : ∀ owner mark entries, call.owner? = some owner →
    SideData.store? (SideData.fieldOf cat r) r = some (mark, entries) → mark = none
  entry : ∀ w, call.standing? (SideData.fieldOf cat r) r = some w → w.mark = none

theorem Call.isApart_of_onFields {call : Call} (h : call.onFields = true) (cat : Catalog)
    (r : Record) : call.IsApart cat r := by
  have howner (owner : Value) : call.owner? ≠ some owner := by
    intro howner
    rw [Call.onFields_of_owner howner] at h
    cases h
  refine ⟨fun owner _ _ h => absurd h (howner owner), fun w hw => ?_⟩
  obtain ⟨owner, _, h, _⟩ := Call.standing?_eq_some_iff.mp hw
  exact absurd h (howner owner)

theorem Call.IsApart.redirected_eq {call : Call} (h : call.IsApart cat r) (self : Mark) :
    call.redirected cat self r = call := by
  refine if_neg fun hself => ?_
  cases hstanding : call.standing? (SideData.fieldOf cat r) r with
  | none =>
      rw [hstanding] at hself
      cases hself
  | some w =>
      rw [hstanding] at hself
      have hmark := h.entry w hstanding
      -- What is told to be the record itself is told so by its mark.
      cases w with
      | record mark _ _ =>
          obtain rfl : mark = none := hmark
          cases hself
      | _ => cases hself

theorem Call.IsApart.spread_eq {call : Call} (h : call.IsApart cat r) (after : Record) :
    call.spread (SideData.fieldOf cat r) r after = after := by
  unfold Call.spread
  split
  · next owner mark entries howner hfound =>
      obtain rfl := h.store owner mark entries howner hfound
      rw [exchange_of_unmarked rfl]
      unfold Call.spreadEntry
      split
      · next old new hold hnew => rw [exchange_of_unmarked (h.entry old hold), ite_self]
      · rfl
  · rfl

/-- A call about what stands in one place does what it does to the tree. -/
theorem performShared_eq_perform {call : Call} (h : call.IsApart cat r) :
    (call.performShared cat self).run r = (call.perform cat).run r := by
  rw [run_performShared, h.redirected_eq, h.spread_eq]

/-- Every call of a run is about what stands in one place. -/
def StaysApart : List (Catalog × Call) → Record → Prop
  | [], _ => True
  | (cat, call) :: rest, r => call.IsApart cat r ∧ StaysApart rest ((call.perform cat).run r).state

/-- Calls on fields change nothing in place. -/
theorem staysApart_of_onFields {calls : List (Catalog × Call)}
    (h : ∀ c ∈ calls, c.2.onFields = true) : StaysApart calls r := by
  induction calls generalizing r with
  | nil => trivial
  | cons c calls ih =>
      obtain ⟨hhead, htail⟩ := List.forall_mem_cons.mp h
      exact ⟨Call.isApart_of_onFields hhead c.1 r, ih htail⟩

/-! ### One call -/

/-- A record that shows the same is in the same state. -/
theorem Rests.of_seenAs {committed : Bool} (hrests : r.Rests cat t v committed)
    (hheader : s.header = r.header) (hdata : (cat.visible t r.data).SeenAs (cat.visible t s.data)) :
    s.Rests cat t v committed := by
  cases committed with
  | true =>
      obtain ⟨hvalid, htainted, hadmits⟩ := hrests
      exact ⟨by rw [hheader, hvalid], by rw [hheader, htainted],
        Catalog.admits_of_seenAs hdata hadmits⟩
  | false =>
      obtain ⟨hvalid, htainted, hhidden⟩ := hrests
      rw [hhidden] at hdata
      exact ⟨by rw [hheader, hvalid], by rw [hheader, htainted], List.forall₂_nil_left_iff.mp hdata⟩

theorem IsStrict.of_header_eq (hr : r.IsStrict t v) (hheader : s.header = r.header) :
    s.IsStrict t v :=
  ⟨by rw [hheader, hr.type_eq], by rw [hheader, hr.mode_eq], by rw [hheader, hr.validator_eq]⟩

/-- What a call assigns to decides whether it spares sequences: where it only looks something up, what
changes is a record. -/
theorem Call.Spares.of_spares {call : Call} (h : call.spares cat self r = true) :
    (call.redirected cat self r).Spares cat r := by
  intro old hold hchanges hitems
  unfold Call.spares at h
  cases hredirected : call.redirected cat self r with
  | sidePut owner key w =>
      rw [hredirected] at h hold
      simp only [hold, Option.all_some, List.all_eq_true, Bool.not_eq_true'] at h
      exact h
  | sideFind _ _ _ | sideAll _ =>
      rw [hredirected] at hchanges
      cases old with
      | record _ _ _ => simp [Value.items?] at hitems
      | _ => cases hchanges
  | _ => rw [hredirected] at hchanges; cases hchanges

/-- A call leads from state to state, if it spares the sequences in the fields. -/
theorem rests_of_performShared {call : Call} (hr : r.IsStrict t v)
    (hdistinct : Entries.Distinct (cat.schemaOf t)) {answer : Answer}
    (hresult : ((call.performShared cat self).run r).result = .ok answer)
    (hspares : call.spares cat self r = true) {committed : Bool}
    (hrests : r.Rests cat t v committed) :
    ((call.performShared cat self).run r).state.IsStrict t v ∧
      ((call.performShared cat self).run r).state.Rests cat t v
        (committed || (call.redirected cat self r).validates cat r) := by
  -- The call alone leads to a state as it does on trees, and what is exchanged after it is not seen.
  have hcalled := called cat (call.redirected cat self r) r
  have hstate := rests_of_called hcalled hr hdistinct hresult hrests
  have hseen := seenAs_spread _ (Call.Spares.of_spares hspares)
  rw [hr.type_eq] at hseen
  exact ⟨(hr.of_called hcalled).of_header_eq (header_spread _ _ _ _),
    hstate.of_seenAs (header_spread _ _ _ _) hseen⟩

/-! ### Runs -/

/-- However containers are marked, a record shows the same. -/
theorem seenAs_of_unmarked_eq (h : s.unmarked = r.unmarked) (cat : Catalog) (t : TypeId) :
    (cat.visible t r.data).SeenAs (cat.visible t s.data) := by
  have hdata : unmarkedEntries s.data = unmarkedEntries r.data := congrArg Record.data h
  have hs := Entries.seenAs_unmarked s.data
  rw [hdata] at hs
  exact ((Entries.seenAs_unmarked r.data).trans hs.symm).without (cat.sideKey t)

theorem header_of_unmarked_eq (h : s.unmarked = r.unmarked) : s.header = r.header := by
  have hheader := congrArg Record.header h
  exact hheader

theorem Turn.run_perform (self : Mark) (turn : Turn) (r : Record) :
    (turn.perform self).run r =
      (turn.call.performShared turn.catalog self).run (turn.marking r) := by
  have hmodify : (Act.run (modify turn.marking) r).result = .ok () := rfl
  unfold Turn.perform
  rw [Act.run_bind_ok hmodify]
  rfl

/-- Where objects stand in one place, a run goes as it goes on trees. So it does where only fields are
written and read (`staysApart_of_onFields`). -/
theorem performAllShared_eq_performAll (self : Mark) {calls : List (Catalog × Call)}
    (h : StaysApart calls r) :
    (performAllShared self (calls.map fun c => ⟨c.1, id, c.2⟩)).run r = (performAll calls).run r := by
  induction calls generalizing r with
  | nil => rfl
  | cons c calls ih =>
      obtain ⟨hhead, htail⟩ := h
      refine Act.run_inTurn_cons_congr ?_ (ih htail)
      rw [Turn.run_perform]
      exact performShared_eq_perform hhead

/-- The containers are marked first, and then the call goes by the catalog of its moment. -/
theorem rests_of_turn {turn : Turn} (hdistinct : Entries.Distinct (cat.schemaOf t))
    (hrules : cat.SameRules turn.catalog t v.registry)
    (hmarks : ∀ r, (turn.marking r).unmarked = r.unmarked) (hr : r.IsStrict t v) {answer : Answer}
    (hresult : ((turn.perform self).run r).result = .ok answer)
    (hspares : turn.spares self r = true) {committed : Bool} (hrests : r.Rests cat t v committed) :
    ((turn.perform self).run r).state.IsStrict t v ∧
      ((turn.perform self).run r).state.Rests cat t v (committed || turn.validates self r) := by
  have hheader := header_of_unmarked_eq (hmarks r)
  have hmarked := hrests.of_seenAs hheader (seenAs_of_unmarked_eq (hmarks r) cat t)
  rw [Turn.run_perform] at hresult ⊢
  obtain ⟨hstrict, hstep⟩ := rests_of_performShared (hr.of_header_eq hheader)
    (by rwa [hrules.schema_eq]) hresult hspares (hmarked.of_sameRules hrules)
  exact ⟨hstrict, hstep.of_sameRules hrules.symm⟩

/-- A run leads from state to state, if all its calls spare the sequences in the fields. -/
theorem rests_of_performAllShared (hdistinct : Entries.Distinct (cat.schemaOf t))
    (turns : List Turn) (hrules : ∀ turn ∈ turns, cat.SameRules turn.catalog t v.registry)
    (hmarks : ∀ turn ∈ turns, ∀ r, (turn.marking r).unmarked = r.unmarked)
    (hr : r.IsStrict t v) {answers : List Answer}
    (hresult : ((performAllShared self turns).run r).result = .ok answers)
    (hspares : sparesAll self turns r = true) {committed : Bool}
    (hrests : r.Rests cat t v committed) :
    ((performAllShared self turns).run r).state.IsStrict t v ∧
      ((performAllShared self turns).run r).state.Rests cat t v
        (committed || validatesAny self turns r) := by
  induction turns generalizing r answers committed with
  | nil => exact ⟨hr, by rw [validatesAny, Bool.or_false]; exact hrests⟩
  | cons turn turns ih =>
      obtain ⟨hhead, htail⟩ := List.forall_mem_cons.mp hrules
      obtain ⟨hmark, hmarks⟩ := List.forall_mem_cons.mp hmarks
      obtain ⟨hspare, hspares⟩ := Bool.and_eq_true_iff.mp hspares
      obtain ⟨answer, rest, hanswer, hrest, _⟩ := Act.inTurn_cons_eq_ok.mp hresult
      obtain ⟨hstrict, hstep⟩ := rests_of_turn hdistinct hhead hmark hr hanswer hspare hrests
      have hfinal := ih htail hmarks hstrict hrest hspares hstep
      rw [Bool.or_assoc] at hfinal
      unfold performAllShared
      rw [List.map_cons, Act.state_inTurn_cons hanswer]
      exact hfinal

/-- Where the parts of a record are objects, a strict record is committed from the first call on that
validates, and from the beginning if its initial data was admitted, in every run whose calls assign to no
sequence that stands in its fields. Until then it is vacant. -/
theorem strict_run_shared (hfields : cat.schemaOf t ≠ [])
    (hdistinct : Entries.Distinct (cat.schemaOf t)) {data : Value} {validator : Option Validator}
    {registry : Option RegistryId} {sink : Sink} {verdict : Verdict}
    (hmake : (make cat t data .strict validator registry sink).answer = .ok (verdict, r))
    (self : Mark) (turns : List Turn)
    (hrules : ∀ turn ∈ turns,
      cat.SameRules turn.catalog t (cat.setupFor t validator registry sink).validator.registry)
    (hmarks : ∀ turn ∈ turns, ∀ r, (turn.marking r).unmarked = r.unmarked)
    {answers : List Answer} (hrun : ((performAllShared self turns).run r).result = .ok answers)
    (hspares : sparesAll self turns r = true) :
    ((performAllShared self turns).run r).state.IsStrict t
        (cat.setupFor t validator registry sink).validator ∧
      if verdict.valid || validatesAny self turns r then
        ((performAllShared self turns).run r).state.Committed cat t
          (cat.setupFor t validator registry sink).validator
      else ((performAllShared self turns).run r).state.Vacant cat t := by
  obtain ⟨hstrict, hrests⟩ := rests_of_make hfields hmake
  exact rests_of_performAllShared hdistinct turns hrules hmarks hstrict hrun hspares hrests

/-! ### Crates -/

/-- A type with an array and a mapping. -/
def crates : Catalog where
  types := [.root, {
    className := "Crate"
    schemaName := "Crate"
    baseSchema := [(.str "sizes", .str "Array<int>"), (.str "labels", .str "Dictionary")] }]

/-- A strict crate with one size and no labels. -/
def makeCrate : Except Failure (Verdict × Record) :=
  (make crates 1 (.dict none [(.str "sizes", .list none [.int 1]), (.str "labels", .dict none [])])
    .strict none none .none).answer

/-- The values of entries with marks that are counted up. -/
def markEntries (next : Nat) : List (Key × Value) → List (Key × Value)
  | [] => []
  | (k, .list none items) :: es => (k, .list (some next) items) :: markEntries (next + 1) es
  | (k, .dict none entries) :: es => (k, .dict (some next) entries) :: markEntries (next + 1) es
  | e :: es => e :: markEntries (next + 1) es

/-- A crate whose sizes are the object 1, and whose labels are the object 2. -/
def markFields (r : Record) : Record := { r with data := markEntries 1 r.data }

theorem unmarked_markFields (r : Record) : (markFields r).unmarked = r.unmarked := by
  have hentries (next : Nat) (es : Entries Value) :
      unmarkedEntries (markEntries next es) = unmarkedEntries es := by
    fun_induction markEntries next es <;> simp_all [unmarkedEntries, Value.unmarked]
  simp only [unmarked, markFields, hentries]

/-- Calls on a crate, the object 0. -/
def crateTurns (calls : List Call) : List Turn := calls.map fun call => ⟨crates, markFields, call⟩

/-- The labels stand under an owner, and are assigned to there. -/
def labelCalls : List Call :=
  [.set (.str "_mod_data") (.dict none [(.str "own", .dict (some 2) [])]),
    .sidePut (.str "own") (.str "color") (.str "red"), .getPresent (.str "labels")]

/-- A crate is committed after its labels have been changed so. -/
theorem strict_run_shared_of_crate : ∃ verdict r, makeCrate = .ok (verdict, r) ∧
    ((performAllShared (some 0) (crateTurns labelCalls)).run r).state.Committed crates 1
      { sink := .logging } := by
  obtain ⟨⟨verdict, r⟩, hmake, hrun⟩ := @Act.exists_of_passes (Verdict × Record)
    (fun out => out.1.valid && sparesAll (some 0) (crateTurns labelCalls) out.2 &&
      Act.passes (fun _ => true)
        ((performAllShared (some 0) (crateTurns labelCalls)).run out.2).result)
    makeCrate (by decide +kernel)
  simp only [Bool.and_eq_true] at hrun
  obtain ⟨⟨hvalid, hspares⟩, hok⟩ := hrun
  obtain ⟨answers, hanswers, _⟩ := Act.exists_of_passes hok
  have hdistinct : Entries.Distinct (crates.schemaOf 1) := by
    unfold Entries.Distinct
    decide
  have hrules (turn : Turn) (hturn : turn ∈ crateTurns labelCalls) :
      crates.SameRules turn.catalog 1 none := by
    obtain ⟨call, _, rfl⟩ := List.mem_map.mp hturn
    exact ⟨rfl, rfl, fun _ => rfl⟩
  have hmarks (turn : Turn) (hturn : turn ∈ crateTurns labelCalls) (r : Record) :
      (turn.marking r).unmarked = r.unmarked := by
    obtain ⟨call, _, rfl⟩ := List.mem_map.mp hturn
    exact unmarked_markFields r
  have hregistry : (crates.setupFor 1 none none .none).validator = { sink := .logging } := by
    simp [Catalog.setupFor, Catalog.registryOf, crates, Catalog.typeAt]
  have hstate := strict_run_shared (by decide) hdistinct hmake (some 0) (crateTurns labelCalls)
    (by rwa [hregistry]) hmarks hanswers hspares
  rw [hvalid, Bool.true_or, hregistry] at hstate
  exact ⟨verdict, r, hmake, hstate.2⟩

/-- The sizes stand under an owner, and are assigned to there. -/
def sizeCalls : List Call :=
  [.set (.str "_mod_data") (.dict none [(.str "own", .list (some 1) [.int 1])]),
    .sidePut (.str "own") (.int 0) (.str "many")]

/-- In a run without a failing call a strict crate gets a size that its validator rejects, and counts as
valid. -/
theorem sharedList_escapes : ∃ verdict r, makeCrate = .ok (verdict, r) ∧ verdict.valid = true ∧
    (∃ answers, ((performAllShared (some 0) (crateTurns sizeCalls)).run r).result = .ok answers) ∧
    ((performAllShared (some 0) (crateTurns sizeCalls)).run r).state.header.valid = true ∧
    ¬ crates.Admits 1 { sink := .logging } .strict
      ((performAllShared (some 0) (crateTurns sizeCalls)).run r).state.data := by
  obtain ⟨⟨verdict, r⟩, hmake, hrun⟩ := @Act.exists_of_passes (Verdict × Record)
    (fun out =>
      let outcome := (performAllShared (some 0) (crateTurns sizeCalls)).run out.2
      out.1.valid && Act.passes (fun _ => true) outcome.result && outcome.state.header.valid &&
        Act.passes (fun found => !found.valid)
          (crates.validateAs 1 { sink := .logging } .strict outcome.state.data).answer)
    makeCrate (by decide +kernel)
  simp only [Bool.and_eq_true] at hrun
  obtain ⟨⟨⟨hvalid, hok⟩, hstill⟩, hrejected⟩ := hrun
  obtain ⟨answers, hanswers, _⟩ := Act.exists_of_passes hok
  refine ⟨verdict, r, hmake, hvalid, ⟨answers, hanswers⟩, hstill, ?_⟩
  rintro ⟨found, hfound, hadmitted⟩
  obtain ⟨found', hfound', hinvalid⟩ := Act.exists_of_passes hrejected
  obtain rfl := Except.ok.inj (hfound.symm.trans hfound')
  rw [hadmitted] at hinvalid
  cases hinvalid

end Record

end TypedRecord
