import TypedRecord.Proofs.Acceptance
import TypedRecord.Proofs.Alike

/-!
# TypedRecord.Proofs.RoundTrip

A record is built again of its plain form.

Flattening a record and building one of the outcome is the identity up to objects made anew. Wrapping
leaves something that, flattened and wrapped once more, is itself made anew (`Rewraps.after`). Where a
mapping stands because the record that could be built of it would not be valid, the induction needs to
know that the same happens to the mapping in its plain form, so it carries a second statement: the plain
form of a value is wrapped like the value (`Rewraps.before`).

`make_toPlain` is the main statement. It holds of every catalog, with factories that are no types among
the registered ones too, and whatever the record was given for a validator and a registry.
-/

namespace TypedRecord

section Rewrapping

variable {cat : Catalog} {mode : Mode}

@[simp] theorem Value.plain_settle_none (fresh : Bool) (v : Value) :
    (settle fresh none v).plain = v.plain := by
  cases fresh <;> simp [settle]

@[simp] theorem Value.remade_settle_none (fresh : Bool) (v : Value) :
    (settle fresh none v).remade = v.remade := by
  cases fresh <;> simp [settle]

@[simp] theorem settle_none_plain (fresh : Bool) (v : Value) :
    settle fresh none v.plain = v.plain := by
  cases fresh <;> simp [settle]

/-- What is left in the place of a value can be flattened and wrapped again. -/
structure Rewraps (cat : Catalog) (mode : Mode) (registry : Option RegistryId) (d : Descriptor)
    (v w : Value) : Prop where
  before : ∃ w', settled cat mode registry true d v.plain = .ok w' ∧ w'.remade = w.remade
  after : settled cat mode registry true d w.plain = .ok w.remade

/-- What is left in the places of items can be flattened and wrapped again. -/
structure ItemsRewrap (cat : Catalog) (mode : Mode) (registry : Option RegistryId)
    (element : Descriptor) (items ws : List Value) : Prop where
  before : ∃ ws', settledItems cat mode registry true element (plainItems items) = .ok ws' ∧
    remadeItems ws' = remadeItems ws
  after : settledItems cat mode registry true element (plainItems ws) = .ok (remadeItems ws)

/-- The candidate for a record can be flattened and prepared again. -/
structure EntriesRewrap (cat : Catalog) (mode : Mode) (registry : Option RegistryId) (t : TypeId)
    (entries candidate : List (Key × Value)) : Prop where
  before : ∃ candidate', (prepare cat mode registry t (plainEntries entries)).answer =
      .ok candidate' ∧ remadeEntries candidate' = remadeEntries candidate
  after : (prepare cat mode registry t (plainEntries candidate)).answer =
    .ok (remadeEntries candidate)

/-- Where the plain form of a plain value stands, so does what the value leaves if it stands. -/
theorem rewraps_of_stands {registry : Option RegistryId} {fresh : Bool} {d : Descriptor} {v : Value}
    (hplain : v.IsPlain)
    (hstands : settled cat mode registry true d v.plain = .ok (settle true none v.plain)) :
    Rewraps cat mode registry d v (settle fresh none v) := by
  rw [settle_none_plain] at hstands
  have hremade : v.remade = v.plain := hplain.remade_eq_plain v
  refine ⟨⟨v.plain, hstands, ?_⟩, ?_⟩
  · rw [Value.remade_plain, Value.remade_settle_none, hremade]
  · rw [Value.plain_settle_none, Value.remade_settle_none, hremade, hstands]

/-- Of entries that prepare to a candidate like another one, a record is built like the other one. -/
theorem Catalog.construct_alike {t : TypeId} {setup : Setup}
    {entries candidate candidate' : Entries Value} {verdict : Verdict} {r : Record}
    (hwhole : ThroughoutEntries Value.IsClear entries)
    (hcandidate' : (prepare cat mode setup.registry t entries).answer = .ok candidate')
    (halike : remadeEntries candidate' = remadeEntries candidate)
    (hjudge : (cat.judge t mode setup candidate).answer = .ok (verdict, r)) :
    ∃ verdict' r', (cat.construct t mode setup entries).answer = .ok (verdict', r') ∧
      r'.header.valid = r.header.valid ∧
      (r.header.valid = true → verdict' = verdict ∧ r' = ⟨r.header, candidate'⟩) := by
  obtain ⟨verdict', r', hjudge', hvalid, hsame⟩ := Catalog.judge_alike halike hjudge
  have hr : r.header.valid = verdict.valid := (Catalog.judged_of_judge hjudge).valid_eq
  have hr' : r'.header.valid = verdict'.valid := (Catalog.judged_of_judge hjudge').valid_eq
  refine ⟨verdict', r', ?_, by rw [hr', hvalid, hr], fun h => hsame (hr ▸ h)⟩
  exact Catalog.answer_construct_eq_ok.mpr ⟨copyable_of_whole hwhole, _, hcandidate', hjudge'⟩

/-- What is left in the place of a plain mapping at a reference, once the record is built. -/
theorem settled_build_plain {registry : Option RegistryId} {d : Descriptor} {target : String}
    {t : TypeId} {entries : Entries Value} {verdict : Verdict} {built : Record}
    (hfound : cat.wrapping? registry d = some (.build target (.type t)))
    (hconstruct : (cat.construct t mode (cat.defaultSetup t) (plainEntries entries)).answer =
      .ok (verdict, built)) :
    settled cat mode registry true d (.dict none (plainEntries entries)) =
      .ok (if built.header.valid then built.toValue none else .dict none (plainEntries entries)) := by
  have hplain : settle true none (.dict none (plainEntries entries)) =
      .dict none (plainEntries entries) := by
    simp [settle, Value.copy]
  rw [settled_build hfound rfl, hconstruct, hplain]
  rfl

/-- What was built of a mapping is built of its plain form, and of the plain form of what was built. -/
theorem rewraps_build {registry : Option RegistryId} {fresh : Bool} {name : String} {nullable : Bool}
    {t : TypeId} {v w : Value} {entries : Entries Value}
    (hfound : cat.wrapping? registry (.named name nullable) = some (.build name (.type t)))
    (hentries : v.entries? = some entries)
    (hplainEntries : v.plain = .dict none (plainEntries entries)) (hplain : v.IsPlain)
    (hprepare : ∀ registry' candidate,
      (prepare cat mode registry' t entries).answer = .ok candidate →
        EntriesRewrap cat mode registry' t entries candidate)
    (h : settled cat mode registry fresh (.named name nullable) v = .ok w) :
    Rewraps cat mode registry (.named name nullable) v w := by
  have hwhole : ThroughoutEntries Value.IsClear entries :=
    ((Value.throughout_of_entries hentries).mp (hplain.isWhole v)).2
  rw [settled_build hfound hentries] at h
  cases hout : (cat.construct t mode (cat.defaultSetup t) entries).answer with
  | error failure => rw [hout] at h; cases h
  | ok out =>
      obtain ⟨verdict, built⟩ := out
      rw [hout] at h
      obtain rfl := Except.ok.inj h
      obtain ⟨_, candidate, hcandidate, hjudge⟩ := Catalog.answer_construct_eq_ok.mp hout
      have hjudged := Catalog.judged_of_judge hjudge
      obtain ⟨⟨candidate', hcandidate', halike⟩, hafter⟩ := hprepare _ candidate hcandidate
      obtain ⟨verdict', built', hconstruct', hvalid', hsame'⟩ :=
        Catalog.construct_alike (hwhole.plain entries) hcandidate' halike hjudge
      have hbefore := settled_build_plain hfound hconstruct'
      rw [← hplainEntries, hvalid'] at hbefore
      cases hvalid : built.header.valid with
      | false =>
          simp only [hvalid, Bool.false_eq_true, if_false] at hbefore ⊢
          exact rewraps_of_stands hplain (by rw [hbefore, settle_none_plain])
      | true =>
          have hdata : built.data = candidate := by
            rw [hjudged.data_eq, ← hjudged.valid_eq, hvalid, if_pos rfl]
          -- The plain form of the record prepares to the candidate made anew.
          have hcandidateWhole : ThroughoutEntries Value.IsClear candidate :=
            throughout_prepare cat.keeps_clear entries hwhole hcandidate
          obtain ⟨verdict'', built'', hconstruct'', _, hsame''⟩ := Catalog.construct_alike
            (hcandidateWhole.plain candidate) hafter (remadeEntries_remadeEntries candidate) hjudge
          obtain ⟨_, rfl⟩ := hsame' hvalid
          obtain ⟨_, rfl⟩ := hsame'' hvalid
          have hagain := settled_build_plain hfound hconstruct''
          simp only [hvalid, if_true, Record.toValue] at hbefore hagain ⊢
          refine ⟨⟨_, hbefore, ?_⟩, ?_⟩
          · simp [Value.remade, hdata, halike]
          · rw [Value.plain, hdata, hagain]
            simp [Value.remade]

/-- What a factory gives back that echoes its data is a list with the mapping in it. The list stands. -/
theorem rewraps_echo {registry : Option RegistryId} {fresh : Bool} {name : String} {nullable : Bool}
    {v w : Value} {entries : Entries Value}
    (hfound : cat.wrapping? registry (.named name nullable) = some (.build name .echo))
    (hentries : v.entries? = some entries)
    (hplainEntries : v.plain = .dict none (plainEntries entries)) (hplain : v.IsPlain)
    (h : settled cat mode registry fresh (.named name nullable) v = .ok w) :
    Rewraps cat mode registry (.named name nullable) v w := by
  have hplainEntries? : v.plain.entries? = some (plainEntries entries) := by rw [hplainEntries]; rfl
  have hremade : remadeEntries entries = plainEntries entries :=
    (Catalog.plain_of_entries hentries hplain).2.remadeEntries_eq_plainEntries entries
  obtain ⟨shown, hshown, hsettled⟩ := @settled_echo cat mode registry fresh _ _ _ _ hfound hentries
  obtain ⟨shown', hshown', hsettled'⟩ :=
    @settled_echo cat mode registry true _ _ _ _ hfound hplainEntries?
  rw [hsettled] at h
  cases h
  have hanew : remadeEntries shown = plainEntries entries := by
    rcases hshown with rfl | rfl <;> simp [hremade]
  have hflat : plainEntries shown = plainEntries entries := by
    rcases hshown with rfl | rfl <;> simp
  have hanew' : remadeEntries shown' = plainEntries entries := by
    rcases hshown' with rfl | rfl <;> simp
  refine ⟨⟨_, hsettled', ?_⟩, ?_⟩
  · simp [Value.remade, remadeItems, hanew, hanew']
  · rw [settled_items_named rfl, settle_none_plain]
    simp [Value.remade, Value.plain, remadeItems, plainItems, hanew, hflat]

/-- A mapping at a name can be flattened and wrapped again. -/
theorem rewraps_entries_named {registry : Option RegistryId} {fresh : Bool} {name : String}
    {nullable : Bool} {v w : Value} {entries : Entries Value} (hentries : v.entries? = some entries)
    (hplainEntries : v.plain = .dict none (plainEntries entries)) (hplain : v.IsPlain)
    (hprepare : ∀ registry' t candidate,
      (prepare cat mode registry' t entries).answer = .ok candidate →
        EntriesRewrap cat mode registry' t entries candidate)
    (h : settled cat mode registry fresh (.named name nullable) v = .ok w) :
    Rewraps cat mode registry (.named name nullable) v w := by
  have hplainEntries? : v.plain.entries? = some (plainEntries entries) := by rw [hplainEntries]; rfl
  rcases cat.wrapping?_named_cases registry name nullable with hfound | ⟨factory, hfound⟩
  · rw [settled_of_none hfound] at h
    cases h
    exact rewraps_of_stands hplain (settled_of_none hfound _)
  · cases factory with
    | type t =>
        exact rewraps_build hfound hentries hplainEntries hplain (fun _ => hprepare _ t) h
    | bound schema =>
        rw [settled_bound hfound hentries] at h
        cases h
        exact ⟨⟨_, settled_bound hfound hplainEntries?, rfl⟩, settled_of_solid rfl _⟩
    | echo => exact rewraps_echo hfound hentries hplainEntries hplain h

/-- A list at a typed array can be flattened and wrapped again if its items can. -/
theorem rewraps_list_array {registry : Option RegistryId} {fresh : Bool} {element : Descriptor}
    {nullable : Bool} {mark : Mark} {items : List Value} {w : Value}
    (hitems : ∀ ws, settledItems cat mode registry fresh element items = .ok ws →
      ItemsRewrap cat mode registry element items ws)
    (h : settled cat mode registry fresh (.array element nullable) (.list mark items) = .ok w) :
    Rewraps cat mode registry (.array element nullable) (.list mark items) w := by
  have hanew (others : List Value) :
      settled cat mode registry true (.array element nullable) (.list none others) =
        (settledItems cat mode registry true element others).map (.list none) := by
    obtain ⟨mark', hmark', hsettled⟩ :=
      @settled_list_array cat mode registry true none others element nullable
    rw [hsettled, hmark' rfl]
  obtain ⟨mark', _, hsettled⟩ :=
    @settled_list_array cat mode registry fresh mark items element nullable
  rw [hsettled] at h
  cases hws : settledItems cat mode registry fresh element items with
  | error failure => rw [hws] at h; cases h
  | ok ws =>
      rw [hws] at h
      cases h
      obtain ⟨⟨ws', hws', halike⟩, hafter⟩ := hitems ws hws
      refine ⟨⟨.list none ws', ?_, ?_⟩, ?_⟩
      · rw [Value.plain, hanew, hws']
        rfl
      · simp [Value.remade, halike]
      · rw [Value.plain, hanew, hafter]
        rfl

/-- So can a tuple, which is a list from then on, or stands where nothing is wrapped. -/
theorem rewraps_tuple_array {registry : Option RegistryId} {fresh : Bool} {element : Descriptor}
    {nullable : Bool} {form : TupleForm} {mark : Mark} {items : List Value} {w : Value}
    (hitems : ∀ ws, settledItems cat mode registry false element items = .ok ws →
      ItemsRewrap cat mode registry element items ws)
    (h : settled cat mode registry fresh (.array element nullable) (@Value.tuple form mark items) = .ok w) :
    Rewraps cat mode registry (.array element nullable) (@Value.tuple form mark items) w := by
  have hagain :
      settled cat mode registry true (.array element nullable) (@Value.tuple form mark items) = .ok w := by
    rw [settled_tuple_array] at h ⊢
    exact h
  refine ⟨⟨w, hagain, rfl⟩, ?_⟩
  rw [settled_tuple_array] at h
  cases hwrapping : (cat.wrapping? registry element).isSome with
  | false =>
      simp only [hwrapping, Bool.false_eq_true, if_false] at h
      cases h
      exact hagain
  | true =>
      simp only [hwrapping, if_true] at h
      cases hws : settledItems cat mode registry false element items with
      | error failure => rw [hws] at h; cases h
      | ok ws =>
          rw [hws] at h
          cases h
          obtain ⟨mark', hmark', hsettled⟩ :=
            @settled_list_array cat mode registry true none (plainItems ws) element nullable
          rw [Value.plain, hsettled, hmark' rfl, (hitems ws hws).after]
          rfl

mutual

/-- Whatever wrapping leaves in the place of a plain value can be flattened and wrapped again. -/
theorem rewraps_of_settled : (v : Value) → v.IsPlain →
    ∀ {registry : Option RegistryId} {fresh : Bool} {d : Descriptor} {w : Value},
      settled cat mode registry fresh d v = .ok w → Rewraps cat mode registry d v w
  | .list mark items, hplain, _, fresh, d, w, h => by
      cases d with
      | named name nullable =>
          rw [settled_items_named rfl] at h
          cases h
          exact rewraps_of_stands hplain (settled_items_named rfl name nullable)
      | array element nullable =>
          exact rewraps_list_array (fun _ hws => itemsRewrap_of_settled items hplain hws) h
  | @Value.tuple form mark items, hplain, _, fresh, d, w, h => by
      cases d with
      | named name nullable =>
          rw [settled_items_named rfl] at h
          cases h
          exact rewraps_of_stands hplain (settled_items_named rfl name nullable)
      | array element nullable =>
          exact rewraps_tuple_array (fun _ hws => itemsRewrap_of_settled items hplain hws) h
  | .dict mark entries, hplain, _, fresh, d, w, h
  | .view mark entries, hplain, _, fresh, d, w, h => by
      cases d with
      | named name nullable =>
          exact rewraps_entries_named rfl rfl hplain
            (fun _ _ _ hcandidate => entriesRewrap_of_prepare entries hplain.2 hcandidate) h
      | array element nullable =>
          rw [settled_entries_array rfl] at h
          cases h
          exact rewraps_of_stands hplain (settled_entries_array rfl element nullable)
  | .atom _ _, hplain, _, _, d, _, h | .buffer _ _, hplain, _, _, d, _, h
  | .set _, hplain, _, _, d, _, h => by
      rw [settled_of_solid rfl] at h
      cases h
      exact ⟨⟨_, settled_of_solid rfl d, rfl⟩, settled_of_solid rfl d⟩
  | .record _ _ _, hplain, _, _, _, _, _ | .reference _, hplain, _, _, _, _, _ => hplain.elim

theorem itemsRewrap_of_settled : (items : List Value) → ArePlain items →
    ∀ {registry : Option RegistryId} {fresh : Bool} {element : Descriptor} {ws : List Value},
      settledItems cat mode registry fresh element items = .ok ws →
        ItemsRewrap cat mode registry element items ws
  | [], _, _, _, _, ws, h => by
      cases h
      exact ⟨⟨[], rfl, rfl⟩, rfl⟩
  | v :: vs, hplain, _, _, _, ws, h => by
      obtain ⟨w, rest, hw, hrest, rfl⟩ := settledItems_cons_eq_ok.mp h
      obtain ⟨⟨w', hw', halike⟩, hafter⟩ := rewraps_of_settled v hplain.1 hw
      obtain ⟨⟨rest', hrest', hrestAlike⟩, hrestAfter⟩ := itemsRewrap_of_settled vs hplain.2 hrest
      refine ⟨⟨w' :: rest', settledItems_cons_eq_ok.mpr ⟨w', rest', hw', hrest', rfl⟩, ?_⟩,
        settledItems_cons_eq_ok.mpr ⟨_, _, hafter, hrestAfter, rfl⟩⟩
      simp [remadeItems, halike, hrestAlike]

theorem entriesRewrap_of_prepare : (entries : List (Key × Value)) → ArePlainEntries entries →
    ∀ {registry : Option RegistryId} {t : TypeId} {candidate : List (Key × Value)},
      (prepare cat mode registry t entries).answer = .ok candidate →
        EntriesRewrap cat mode registry t entries candidate
  | [], _, _, _, candidate, h => by
      cases h
      exact ⟨⟨[], rfl, rfl⟩, rfl⟩
  | (k, v) :: es, hplain, registry, t, candidate, h => by
      obtain ⟨w, rest, hw, hrest, rfl⟩ := answer_prepare_cons_eq_ok.mp h
      obtain ⟨⟨rest', hrest', hrestAlike⟩, hrestAfter⟩ := entriesRewrap_of_prepare es hplain.2 hrest
      have hfield : (∃ w', settledField cat mode registry t k v.plain = .ok w' ∧
          w'.remade = w.remade) ∧ settledField cat mode registry t k w.plain = .ok w.remade := by
        rcases settledField_eq_ok.mp hw with ⟨hd, rfl⟩ | ⟨d, hd, hsettled⟩
        · -- An undeclared value is only copied.
          have hremade : v.remade = v.plain := hplain.1.remade_eq_plain v
          simp only [settledField, hd]
          exact ⟨⟨_, rfl, by simp [hremade]⟩, by simp [hremade]⟩
        · simp only [settledField, hd]
          obtain ⟨hbefore, hafter⟩ := rewraps_of_settled v hplain.1 hsettled
          exact ⟨hbefore, hafter⟩
      obtain ⟨⟨w', hw', halike⟩, hafter⟩ := hfield
      refine ⟨⟨(k, w') :: rest', answer_prepare_cons_eq_ok.mpr ⟨w', rest', hw', hrest', rfl⟩, ?_⟩,
        answer_prepare_cons_eq_ok.mpr ⟨_, _, hafter, hrestAfter, rfl⟩⟩
      simp [remadeEntries, halike, hrestAlike]

end

end Rewrapping

/-! ### Records -/

namespace Record

variable {cat : Catalog} {t : TypeId} {data : Value} {mode : Mode} {validator : Option Validator}
  {registry : Option RegistryId} {sink : Sink} {verdict : Verdict} {r : Record}

/-- The entries that a record of plain data is made of are plain. -/
theorem plain_of_initialEntries {entries : Entries Value} (hplain : data.IsPlain)
    (h : initialEntries data = .ok entries) : Entries.Distinct entries ∧ ArePlainEntries entries := by
  unfold initialEntries at h
  split at h
  · cases hentries : data.entries? with
    | none => rw [hentries] at h; cases h
    | some es =>
        rw [hentries] at h
        cases h
        exact Catalog.plain_of_entries hentries hplain
  · cases h
    exact ⟨List.Pairwise.nil, trivial⟩

/-- A record with its data made anew. -/
def remade (r : Record) : Record := ⟨r.header, remadeEntries r.data⟩

/-- The record that is made of the plain form of a valid record of plain data is that record with its
data made anew. -/
theorem make_toPlain (hplain : data.IsPlain)
    (h : (make cat t data mode validator registry sink).answer = .ok (verdict, r))
    (hvalid : verdict.valid = true) :
    (r.toValue none).IsWhole ∧ (r.remade.toValue none).IsWhole ∧
      (make cat t (.dict none r.toPlain) mode validator registry sink).answer =
        .ok (verdict, r.remade) := by
  simp only [make, Act.answer_bind, Act.answer_ofExcept] at h
  obtain ⟨entries, hentries, hconstruct⟩ := Act.bind_eq_ok.mp h
  obtain ⟨hdistinct, hplainEntries⟩ := plain_of_initialEntries hplain hentries
  obtain ⟨_, candidate, hcandidate, hjudge⟩ := Catalog.answer_construct_eq_ok.mp hconstruct
  have hdata : r.data = candidate := by
    rw [(Catalog.judged_of_judge hjudge).data_eq, if_pos hvalid]
  have hclear : Entries.Distinct candidate :=
    hdistinct.of_keys_eq (keys_of_answer_prepare hcandidate).symm
  have hwhole : ThroughoutEntries Value.IsClear candidate :=
    throughout_prepare cat.keeps_clear entries (hplainEntries.areWhole entries) hcandidate
  have hflat : ThroughoutEntries Value.IsClear (plainEntries candidate) := hwhole.plain candidate
  obtain ⟨_, hafter⟩ := entriesRewrap_of_prepare entries hplainEntries hcandidate
  obtain ⟨verdict', r', hagain, _, hsame⟩ := Catalog.construct_alike hflat hafter
    (remadeEntries_remadeEntries candidate) hjudge
  obtain ⟨rfl, rfl⟩ := hsame (by rw [(Catalog.judged_of_judge hjudge).valid_eq, hvalid])
  simp only [remade, toValue, toPlain, hdata]
  refine ⟨⟨hclear, hwhole⟩, ⟨?_, ?_⟩, ?_⟩
  · exact hclear.of_keys_eq (keys_remadeEntries candidate).symm
  · exact throughout_prepare cat.keeps_clear (plainEntries candidate) hflat hafter
  · rw [Catalog.answer_make rfl]
    exact hagain

/-- Nothing is lost in the plain form of a record: where a record of plain data is valid, the record that
is made of its plain form in the same way is valid too, equals it, and has the same plain form, with
the same keys in the same order. -/
theorem toPlain_lossless (hplain : data.IsPlain)
    (h : (make cat t data mode validator registry sink).answer = .ok (verdict, r))
    (hvalid : verdict.valid = true) :
    ∃ verdict' r', (make cat t (.dict none r.toPlain) mode validator registry sink).answer =
        .ok (verdict', r') ∧
      verdict'.valid = true ∧ r'.equal r = true ∧ r.equal r' = true ∧ r'.toPlain = r.toPlain := by
  obtain ⟨hwhole, hwhole', hmake⟩ := make_toPlain hplain h hvalid
  have halike : (r.remade.toValue none).remade = (r.toValue none).remade := by
    simp [toValue, remade, Value.remade]
  refine ⟨verdict, r.remade, hmake, hvalid, ?_, ?_, ?_⟩
  · exact Value.equalAs_of_alike false _ _ hwhole' halike
  · exact Value.equalAs_of_alike false _ _ hwhole halike.symm
  · exact plainEntries_remadeEntries r.data

/-! ### Shelves -/

/-- A shelf has items on it, and may have another shelf above. -/
def shelves : Catalog where
  types := [.root,
    { className := "Item", schemaName := "Item", registry := some 0,
      baseSchema := [(.str "id", .str "String")] },
    { className := "Shelf", schemaName := "Shelf", registry := some 0,
      baseSchema := [(.str "items", .str "Array<Item>"), (.str "above", .str "Shelf?")] }]
  registries := [[("Item", .type 1), ("Shelf", .type 2)]]

/-- The data of a shelf: a tuple with a mapping and a view of one, an empty shelf above, side data, and
a tuple that no field is declared for. -/
def shelfEntries : Entries Value :=
  [(.str "items", @Value.tuple .fixed none
      [.dict none [(.str "id", .str "a")], .view none [(.str "id", .str "b")]]),
    (.str "above", .dict none [(.str "items", .list none [])]),
    (.str "_mod_data", .view none [(.str "owner", .list none [.int 1])]),
    (.str "size", @Value.tuple .fixed none [.int 2, .dict none []])]

/-- A shelf is the same when it is made of its plain form. -/
theorem toPlain_lossless_of_shelf :
    ∃ verdict r verdict' r',
      (make shelves 2 (.dict none shelfEntries) .loose none none .none).answer = .ok (verdict, r) ∧
      verdict.valid = true ∧
      (make shelves 2 (.dict none r.toPlain) .loose none none .none).answer = .ok (verdict', r') ∧
      verdict'.valid = true ∧ r'.equal r = true ∧ r.equal r' = true ∧ r'.toPlain = r.toPlain := by
  have hplain : (Value.dict none shelfEntries).IsPlain := by
    simp [shelfEntries, Value.IsPlain, ArePlain, ArePlainEntries, Entries.Distinct, Value.schema?]
  obtain ⟨⟨verdict, r⟩, hmake, hvalid⟩ := @Act.exists_of_passes (Verdict × Record)
    (fun out => out.1.valid)
    (make shelves 2 (.dict none shelfEntries) .loose none none .none).answer (by decide +kernel)
  obtain ⟨verdict', r', hmade⟩ := toPlain_lossless hplain hmake hvalid
  exact ⟨verdict, r, verdict', r', hmake, hvalid, hmade⟩

end Record

end TypedRecord
