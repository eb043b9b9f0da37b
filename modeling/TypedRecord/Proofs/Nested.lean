import TypedRecord.Proofs.Wrapping

/-!
# TypedRecord.Proofs.Nested

What is inside the values that wrapping leaves.

A value has a property throughout when it and all its parts have it, however deep they are and also
inside records. Wrapping copies, rearranges and builds, so it keeps every property that does not hang
on which object a part is or which values it holds, and that the records it builds have
(`Catalog.Keeps`, `throughout_settled`). It is an induction on the value, in which the only case of
interest is a mapping at a reference.

Two such properties are used later: of every record in a value (`Value.EveryRecord`), of which wrapping
adds sound ones only, and of a value to be whole (`Value.IsWhole`).
-/

namespace TypedRecord

mutual

/-- A value and all its parts have a property. -/
def Value.Throughout (P : Value → Prop) : Value → Prop
  | .list mark items => P (.list mark items) ∧ ThroughoutItems P items
  | @Value.tuple form mark items => P (@Value.tuple form mark items) ∧ ThroughoutItems P items
  | .dict mark entries => P (.dict mark entries) ∧ ThroughoutEntries P entries
  | .view mark entries => P (.view mark entries) ∧ ThroughoutEntries P entries
  | .record mark header data => P (.record mark header data) ∧ ThroughoutEntries P data
  | v => P v

/-- Items have a property throughout. -/
def ThroughoutItems (P : Value → Prop) : List Value → Prop
  | [] => True
  | v :: vs => v.Throughout P ∧ ThroughoutItems P vs

/-- The values of entries have a property throughout. -/
def ThroughoutEntries (P : Value → Prop) : List (Key × Value) → Prop
  | [] => True
  | (_, v) :: es => v.Throughout P ∧ ThroughoutEntries P es

end

section Throughout

variable {P Q : Value → Prop}

theorem throughoutEntries_iff {entries : Entries Value} :
    ThroughoutEntries P entries ↔ ∀ e ∈ entries, e.2.Throughout P := by
  induction entries with
  | nil => simp [ThroughoutEntries]
  | cons e es ih => simp [ThroughoutEntries, ih]

theorem Value.Throughout.self {v : Value} (h : v.Throughout P) : P v := by
  cases v with
  | list _ _ | tuple _ _ | dict _ _ | view _ _ | record _ _ _ => exact h.1
  | _ => exact h

theorem Value.throughout_of_entries {v : Value} {entries : Entries Value}
    (h : v.entries? = some entries) : v.Throughout P ↔ P v ∧ ThroughoutEntries P entries := by
  cases v with
  | dict _ _ | view _ _ =>
      obtain rfl := Option.some.inj h
      simp only [Throughout]
  | _ => simp [Value.entries?] at h

mutual

/-- What holds throughout a value holds throughout if less is asked. -/
theorem Value.Throughout.mono (h : ∀ v, P v → Q v) :
    (v : Value) → v.Throughout P → v.Throughout Q
  | .list _ items, hv => ⟨h _ hv.1, ThroughoutItems.mono h items hv.2⟩
  | .tuple _ items, hv => ⟨h _ hv.1, ThroughoutItems.mono h items hv.2⟩
  | .dict _ entries, hv => ⟨h _ hv.1, ThroughoutEntries.mono h entries hv.2⟩
  | .view _ entries, hv => ⟨h _ hv.1, ThroughoutEntries.mono h entries hv.2⟩
  | .record _ _ data, hv => ⟨h _ hv.1, ThroughoutEntries.mono h data hv.2⟩
  | .atom _ _, hv | .reference _, hv | .buffer _ _, hv | .set _, hv => h _ hv

theorem ThroughoutItems.mono (h : ∀ v, P v → Q v) :
    (items : List Value) → ThroughoutItems P items → ThroughoutItems Q items
  | [], _ => trivial
  | v :: vs, hvs => ⟨Value.Throughout.mono h v hvs.1, ThroughoutItems.mono h vs hvs.2⟩

theorem ThroughoutEntries.mono (h : ∀ v, P v → Q v) :
    (entries : List (Key × Value)) → ThroughoutEntries P entries → ThroughoutEntries Q entries
  | [], _ => trivial
  | (_, v) :: es, hes => ⟨Value.Throughout.mono h v hes.1, ThroughoutEntries.mono h es hes.2⟩

end

/-- A mapping with a value written to it has a property throughout if both have. -/
theorem ThroughoutEntries.put {key : Key} {v : Value} {entries : Entries Value}
    (hv : v.Throughout P) (h : ThroughoutEntries P entries) :
    ThroughoutEntries P (entries.put key v) := by
  induction entries with
  | nil => exact ⟨hv, trivial⟩
  | cons e es ih =>
      obtain ⟨k, w⟩ := e
      unfold Entries.put
      by_cases hk : k.same key = true
      · rw [if_pos hk]
        exact ⟨hv, h.2⟩
      · rw [if_neg hk]
        exact ⟨h.1, ih h.2⟩

end Throughout

/-! ### Sound records -/

namespace Catalog

variable {cat : Catalog}

/-- A record is sound when it is valid and its validator, which is enabled, admits its data; a type
without fields admits everything. -/
structure IsSound (cat : Catalog) (header : Header) (data : Entries Value) : Prop where
  valid : header.valid = true
  enabled : header.validator.enabled = true
  admitted : cat.schemaOf header.type.id = [] ∨
    cat.Admits header.type.id header.validator header.mode data

/-- A record that is built of a mapping is sound if it is valid. -/
theorem isSound_of_judged {t : TypeId} {mode : Mode} {candidate : Entries Value}
    {verdict : Verdict} {built : Record}
    (h : cat.Judged t mode (cat.defaultSetup t) candidate verdict built)
    (hvalid : built.header.valid = true) :
    cat.IsSound built.header built.data ∧ built.data = candidate := by
  have hverdict : verdict.valid = true := by rw [← h.valid_eq, hvalid]
  have hdata : built.data = candidate := by rw [h.data_eq, if_pos hverdict]
  refine ⟨⟨hvalid, by rw [h.validator_eq]; rfl, ?_⟩, hdata⟩
  rw [h.type_eq, h.validator_eq, h.mode_eq, hdata]
  by_cases hschema : cat.schemaOf t = []
  · exact .inl hschema
  · exact .inr (h.admits hschema hverdict)

/-- A property of values that wrapping keeps: atoms and lists always have it, and a mapping has it with
other values under its keys, and as a sound record. -/
structure Keeps (cat : Catalog) (P : Value → Prop) : Prop where
  atom : ∀ mark a, P (.atom mark a)
  list : ∀ mark items, P (.list mark items)
  mapping : ∀ {v : Value} {entries entries' : Entries Value}, v.entries? = some entries → P v →
    Entries.keys entries' = Entries.keys entries → P (.dict none entries')
  record : ∀ {v : Value} {entries data : Entries Value} {header : Header},
    v.entries? = some entries → P v → Entries.keys data = Entries.keys entries →
      cat.IsSound header data → P (.record none header data)

end Catalog

section Keeps

variable {cat : Catalog} {P : Value → Prop}

mutual

theorem Value.Throughout.copy (hP : cat.Keeps P) :
    (v : Value) → v.Throughout P → v.copy.Throughout P
  | .list _ items, hv => ⟨hP.list _ _, ThroughoutItems.copy hP items hv.2⟩
  | .dict _ entries, hv =>
      ⟨hP.mapping rfl hv.1 (keys_copyEntries entries), ThroughoutEntries.copy hP entries hv.2⟩
  | .atom _ _, hv | .reference _, hv | .buffer _ _, hv | .tuple _ _, hv | .set _, hv
  | .view _ _, hv | .record _ _ _, hv => hv

theorem ThroughoutItems.copy (hP : cat.Keeps P) :
    (items : List Value) → ThroughoutItems P items → ThroughoutItems P (copyItems items)
  | [], _ => trivial
  | v :: vs, hvs => ⟨Value.Throughout.copy hP v hvs.1, ThroughoutItems.copy hP vs hvs.2⟩

theorem ThroughoutEntries.copy (hP : cat.Keeps P) :
    (entries : List (Key × Value)) → ThroughoutEntries P entries →
      ThroughoutEntries P (copyEntries entries)
  | [], _ => trivial
  | (_, v) :: es, hes => ⟨Value.Throughout.copy hP v hes.1, ThroughoutEntries.copy hP es hes.2⟩

end

theorem Value.Throughout.settle_none (hP : cat.Keeps P) {v : Value} (h : v.Throughout P)
    (fresh : Bool) : (settle fresh none v).Throughout P := by
  cases fresh with
  | false => exact h
  | true => exact Value.Throughout.copy hP v h

/-! ### Wrapping keeps -/

variable {mode : Mode}

/-- Where a record is built of a mapping the mapping stands, or a record whose data is made of it. -/
theorem throughout_settled_build (hP : cat.Keeps P) {registry : Option RegistryId} {fresh : Bool}
    {d : Descriptor} {target : String} {t : TypeId} {v w : Value} {entries : Entries Value}
    (hfound : cat.wrapping? registry d = some (.build target (.type t)))
    (hentries : v.entries? = some entries) (hv : v.Throughout P)
    (hprepare : ∀ registry' candidate,
      (prepare cat mode registry' t entries).answer = .ok candidate → ThroughoutEntries P candidate)
    (h : settled cat mode registry fresh d v = .ok w) : w.Throughout P := by
  have hself : P v := ((Value.throughout_of_entries hentries).mp hv).1
  rw [settled_build hfound hentries] at h
  cases hout : (cat.construct t mode (cat.defaultSetup t) entries).answer with
  | error failure => rw [hout] at h; cases h
  | ok out =>
      obtain ⟨verdict, built⟩ := out
      obtain ⟨candidate, hcandidate, hjudged⟩ := Catalog.judged_of_construct hout
      rw [hout] at h
      obtain rfl := Except.ok.inj h
      cases hvalid : built.header.valid with
      | false => simpa [hvalid] using hv.settle_none hP fresh
      | true =>
          obtain ⟨hsound, hdata⟩ := Catalog.isSound_of_judged hjudged hvalid
          rw [hdata] at hsound
          have hrecord : P (.record none built.header candidate) :=
            hP.record hentries hself (keys_of_answer_prepare hcandidate) hsound
          have hbuilt : (built.toValue none).Throughout P := by
            rw [Record.toValue, hdata]
            exact ⟨hrecord, hprepare _ candidate hcandidate⟩
          simpa [hvalid] using hbuilt

/-- A mapping at a name stands, or a record stands there whose data is made of the mapping, or what
else the registry makes of it. -/
theorem throughout_settled_entries_named (hP : cat.Keeps P) {registry : Option RegistryId}
    {fresh : Bool} {name : String} {nullable : Bool} {v w : Value} {entries : Entries Value}
    (hentries : v.entries? = some entries) (hv : v.Throughout P)
    (hprepare : ∀ registry' t candidate,
      (prepare cat mode registry' t entries).answer = .ok candidate → ThroughoutEntries P candidate)
    (h : settled cat mode registry fresh (.named name nullable) v = .ok w) : w.Throughout P := by
  obtain ⟨hself, hinside⟩ := (Value.throughout_of_entries hentries).mp hv
  rcases cat.wrapping?_named_cases registry name nullable with hfound | ⟨factory, hfound⟩
  · rw [settled_of_none hfound] at h
    cases h
    exact hv.settle_none hP fresh
  · cases factory with
    | type t =>
        exact throughout_settled_build hP hfound hentries hv (fun _ => hprepare _ t) h
    | bound schema =>
        rw [settled_bound hfound hentries] at h
        cases h
        exact hP.atom none _
    | echo =>
        obtain ⟨shown, hshown, hsettled⟩ :=
          @settled_echo cat mode registry fresh _ _ _ _ hfound hentries
        rw [hsettled] at h
        cases h
        refine ⟨hP.list _ _, ?_, hP.atom none _, trivial⟩
        rcases hshown with rfl | rfl
        · exact ⟨hP.mapping hentries hself rfl, hinside⟩
        · exact ⟨hP.mapping hentries hself (keys_copyEntries entries),
            ThroughoutEntries.copy hP entries hinside⟩

/-- A sequence at a typed array turns into a list of what stands in the places of its items, unless it is
a tuple and stands. -/
theorem throughout_settled_items_array (hP : cat.Keeps P) {registry : Option RegistryId}
    {fresh : Bool} {element : Descriptor} {nullable : Bool} {v w : Value} {items : List Value}
    (hitems : v.items? = some items) (hv : v.Throughout P)
    (hsettled : ∀ fresh' ws, settledItems cat mode registry fresh' element items = .ok ws →
      ThroughoutItems P ws)
    (h : settled cat mode registry fresh (.array element nullable) v = .ok w) : w.Throughout P := by
  cases v with
  | list mark vs =>
      obtain rfl := Option.some.inj hitems
      obtain ⟨mark', _, hlist⟩ :=
        @settled_list_array cat mode registry fresh mark vs element nullable
      rw [hlist] at h
      obtain ⟨ws, hws, rfl⟩ := Act.map_eq_ok.mp h
      exact ⟨hP.list _ _, hsettled _ ws hws⟩
  | @tuple form mark vs =>
      obtain rfl := Option.some.inj hitems
      rw [settled_tuple_array] at h
      split at h
      · obtain ⟨ws, hws, rfl⟩ := Act.map_eq_ok.mp h
        exact ⟨hP.list _ _, hsettled _ ws hws⟩
      · cases h
        exact hv
  | _ => simp [Value.items?] at hitems

mutual

/-- What wrapping leaves has a property throughout if the value has. -/
theorem throughout_settled (hP : cat.Keeps P) :
    (v : Value) → v.Throughout P →
      ∀ {registry : Option RegistryId} {fresh : Bool} {d : Descriptor} {w : Value},
        settled cat mode registry fresh d v = .ok w → w.Throughout P
  | .list _ items, hv, _, fresh, d, w, h | .tuple _ items, hv, _, fresh, d, w, h => by
      cases d with
      | named name nullable =>
          rw [settled_items_named rfl] at h
          cases h
          exact hv.settle_none hP fresh
      | array element nullable =>
          exact throughout_settled_items_array hP rfl hv
            (fun _ _ hws => throughout_settledItems hP items hv.2 hws) h
  | .dict _ entries, hv, _, fresh, d, w, h | .view _ entries, hv, _, fresh, d, w, h => by
      cases d with
      | named name nullable =>
          exact throughout_settled_entries_named hP rfl hv
            (fun _ _ _ hcandidate => throughout_prepare hP entries hv.2 hcandidate) h
      | array element nullable =>
          rw [settled_entries_array rfl] at h
          cases h
          exact hv.settle_none hP fresh
  | .atom _ _, hv, _, _, d, _, h | .buffer _ _, hv, _, _, d, _, h | .set _, hv, _, _, d, _, h
  | .record _ _ _, hv, _, _, d, _, h => by
      rw [settled_of_solid rfl] at h
      cases h
      exact hv
  | .reference mark, hv, registry, fresh, d, w, h => by
      -- Where wrapping would look into the value it fails.
      cases hwrapping : cat.wrapping? registry d with
      | none =>
          rw [settled_of_none hwrapping] at h
          cases h
          exact hv.settle_none hP fresh
      | some wrapping =>
          simp only [settled, wrap?, hwrapping] at h
          cases h

theorem throughout_settledItems (hP : cat.Keeps P) :
    (items : List Value) → ThroughoutItems P items →
      ∀ {registry : Option RegistryId} {fresh : Bool} {element : Descriptor} {ws : List Value},
        settledItems cat mode registry fresh element items = .ok ws → ThroughoutItems P ws
  | [], _, _, _, _, ws, h => by
      cases h
      trivial
  | v :: vs, hvs, _, fresh, element, ws, h => by
      obtain ⟨w, rest, hw, hrest, rfl⟩ := settledItems_cons_eq_ok.mp h
      exact ⟨throughout_settled hP v hvs.1 hw, throughout_settledItems hP vs hvs.2 hrest⟩

theorem throughout_prepare (hP : cat.Keeps P) :
    (entries : List (Key × Value)) → ThroughoutEntries P entries →
      ∀ {registry : Option RegistryId} {t : TypeId} {candidate : List (Key × Value)},
        (prepare cat mode registry t entries).answer = .ok candidate →
          ThroughoutEntries P candidate
  | [], _, _, _, candidate, h => by
      cases h
      trivial
  | (k, v) :: es, hes, registry, t, candidate, h => by
      obtain ⟨w, rest, hw, hrest, rfl⟩ := answer_prepare_cons_eq_ok.mp h
      refine ⟨?_, throughout_prepare hP es hes.2 hrest⟩
      rcases settledField_eq_ok.mp hw with ⟨_, rfl⟩ | ⟨d, _, hsettled⟩
      · exact Value.Throughout.copy hP v hes.1
      · exact throughout_settled hP v hes.1 hsettled

end

end Keeps

/-! ### Records -/

/-- Where a value may break off or be ambiguous: it holds itself, or a mapping has two entries of one
key. -/
def Value.IsClear : Value → Prop
  | .reference _ => False
  | .dict _ entries | .view _ entries | .record _ _ entries => Entries.Distinct entries
  | _ => True

/-- A value is whole where it is clear throughout. -/
def Value.IsWhole (v : Value) : Prop := v.Throughout Value.IsClear

theorem Catalog.keeps_clear (cat : Catalog) : cat.Keeps Value.IsClear where
  atom := fun _ _ => trivial
  list := fun _ _ => trivial
  mapping := by
    intro v entries entries' h hclear hkeys
    cases v with
    | dict _ _ | view _ _ =>
        obtain rfl := Option.some.inj h
        exact Entries.Distinct.of_keys_eq hkeys.symm hclear
    | _ => simp [Value.entries?] at h
  record := by
    intro v entries data header h hclear hkeys _
    cases v with
    | dict _ _ | view _ _ =>
        obtain rfl := Option.some.inj h
        exact Entries.Distinct.of_keys_eq hkeys.symm hclear
    | _ => simp [Value.entries?] at h

mutual

/-- No reference is met in a whole value. -/
theorem Value.IsWhole.meets {enters : Value → Bool} : (v : Value) → v.IsWhole →
    v.meets enters = false
  | .list _ items, h | .tuple _ items, h => by
      simp [Value.meets, ThroughoutItems.anyMeets items h.2]
  | .dict _ entries, h | .view _ entries, h | .record _ _ entries, h => by
      simp [Value.meets, ThroughoutEntries.anyEntryMeets entries h.2]
  | .reference _, h => h.elim
  | .atom _ _, _ | .buffer _ _, _ | .set _, _ => by simp [Value.meets]

theorem ThroughoutItems.anyMeets {enters : Value → Bool} : (items : List Value) →
    ThroughoutItems Value.IsClear items → anyMeets enters items = false
  | [], _ => rfl
  | v :: vs, h => by
      simp [TypedRecord.anyMeets, Value.IsWhole.meets v h.1, ThroughoutItems.anyMeets vs h.2]

theorem ThroughoutEntries.anyEntryMeets {enters : Value → Bool} : (entries : List (Key × Value)) →
    ThroughoutEntries Value.IsClear entries → anyEntryMeets enters entries = false
  | [], _ => rfl
  | (_, v) :: es, h => by
      simp [TypedRecord.anyEntryMeets, Value.IsWhole.meets v h.1,
        ThroughoutEntries.anyEntryMeets es h.2]

end

/-- Whole values can be copied. -/
theorem copyable_of_whole {entries : Entries Value}
    (h : ThroughoutEntries Value.IsClear entries) : copyable entries = .ok () := by
  have hnone : (entries.any fun e => e.2.meets Value.isCopiedDeeply) = false := by
    rw [List.any_eq_false]
    intro e he
    simp [Value.IsWhole.meets e.2 (throughoutEntries_iff.mp h e he)]
  simp [copyable, hnone]

mutual

/-- The plain form of a whole value is whole. -/
theorem Value.IsWhole.plain : (v : Value) → v.IsWhole → v.plain.IsWhole
  | .list _ items, h => ⟨trivial, ThroughoutItems.plain items h.2⟩
  | .dict _ entries, h | .view _ entries, h | .record _ _ entries, h =>
      ⟨Entries.Distinct.of_keys_eq (keys_plainEntries entries).symm h.1,
        ThroughoutEntries.plain entries h.2⟩
  | .atom _ _, h | .reference _, h | .buffer _ _, h | .tuple _ _, h | .set _, h => h

theorem ThroughoutItems.plain : (items : List Value) → ThroughoutItems Value.IsClear items →
    ThroughoutItems Value.IsClear (plainItems items)
  | [], _ => trivial
  | v :: vs, h => ⟨Value.IsWhole.plain v h.1, ThroughoutItems.plain vs h.2⟩

theorem ThroughoutEntries.plain : (entries : List (Key × Value)) →
    ThroughoutEntries Value.IsClear entries → ThroughoutEntries Value.IsClear (plainEntries entries)
  | [], _ => trivial
  | (_, v) :: es, h => ⟨Value.IsWhole.plain v h.1, ThroughoutEntries.plain es h.2⟩

end

end TypedRecord
