import TypedRecord.Proofs.RoundTrip

/-!
# TypedRecord.Proofs.Flattening

Wrapping does not show in plain forms.

A mapping that is turned into a record comes back when the record is flattened, whether or not records
were built inside it, and a mapping that is rejected stands. So the plain form of what wrapping leaves
is the plain form of what came in (`plain_settled`), with two exceptions that the hypotheses are about:
a factory that is no record type builds what it likes, and a tuple that is looked into becomes a list.

What is built inside a record of some type is built through the registry of that type, which may be
another one than that of the record outside. `Catalog.Reaches` lists the registries that come into it.
-/

namespace TypedRecord

/-- Something that is no tuple, in no form. -/
def Value.IsNoTuple : Value → Prop
  | .tuple _ _ => False
  | _ => True

/-- A value in which lists are the only sequences. -/
abbrev Value.IsTupleFree (v : Value) : Prop := v.Throughout Value.IsNoTuple

namespace Catalog

/-- The registries that are asked while the values in a record are wrapped: that of the record, and those
of the types that are found on the way. -/
inductive Reaches (cat : Catalog) : Option RegistryId → RegistryId → Prop
  | own (r : RegistryId) : Reaches cat (some r) r
  | inside {r s : RegistryId} {name : String} {t : TypeId}
      (hfind : (cat.registryAt r).find? name = some (.type t))
      (h : Reaches cat (cat.registryOf t) s) : Reaches cat (some r) s

/-- Nothing but record types is found while the values in a record are wrapped. -/
def FindsTypesOnly (cat : Catalog) (registry : Option RegistryId) : Prop :=
  ∀ r, cat.Reaches registry r → ∀ name factory, (cat.registryAt r).find? name = some factory →
    ∃ t, factory = .type t

variable {cat : Catalog}

/-- What is found is a record type, and so is everything found inside. -/
theorem FindsTypesOnly.of_find? {r : RegistryId} (h : cat.FindsTypesOnly (some r)) {name : String}
    {factory : Factory} (hfind : (cat.registryAt r).find? name = some factory) :
    ∃ t, factory = .type t ∧ cat.FindsTypesOnly (cat.registryOf t) := by
  obtain ⟨t, rfl⟩ := h r (.own r) name factory hfind
  exact ⟨t, rfl, fun s hs => h s (.inside hfind hs)⟩

/-- What a name builds is a record, of a type inside which nothing but record types is found. -/
theorem FindsTypesOnly.of_wrapping? {registry : Option RegistryId}
    (h : cat.FindsTypesOnly registry) {name target : String} {nullable : Bool} {factory : Factory}
    (hwrapping : cat.wrapping? registry (.named name nullable) = some (.build target factory)) :
    ∃ t, factory = .type t ∧ cat.FindsTypesOnly (cat.registryOf t) := by
  rw [wrapping?_named] at hwrapping
  split at hwrapping
  · obtain ⟨r, rfl, hfound⟩ := Option.bind_eq_some_iff.mp hwrapping
    obtain ⟨found, hfind, heq⟩ := Option.map_eq_some_iff.mp hfound
    obtain ⟨-, rfl⟩ := Wrapping.build.inj heq
    exact h.of_find? hfind
  · cases hwrapping

/-- In a self-contained registry there are record types only, which go on asking that registry. -/
theorem SelfContained.findsTypesOnly {r : RegistryId} (hr : cat.SelfContained r) :
    cat.FindsTypesOnly (some r) := by
  -- The types found in the registry ask it again, so no other one is reached.
  have hreaches : ∀ {registry s}, cat.Reaches registry s → registry = some r → s = r := by
    intro registry s h
    induction h with
    | own s => exact Option.some.inj
    | inside hfind _ ih =>
      rintro heq
      obtain rfl := Option.some.inj heq
      exact ih (hr.registers hfind).registryOf_eq
  intro s hs name factory hfind
  obtain rfl := hreaches hs rfl
  obtain ⟨t, rfl, _⟩ := hr name factory hfind
  exact ⟨t, rfl⟩

end Catalog

section Plain

variable {cat : Catalog} {mode : Mode}

/-- An object that holds itself is left alone, or wrapping it fails. -/
theorem settled_reference {registry : Option RegistryId} {fresh : Bool} {d : Descriptor} {mark : Nat}
    {w : Value} (h : settled cat mode registry fresh d (.reference mark) = .ok w) :
    w = .reference mark := by
  cases hwrapping : cat.wrapping? registry d with
  | none =>
    rw [settled_of_none hwrapping] at h
    cases h
    cases fresh <;> rfl
  | some wrapping => simp [settled, wrap?, hwrapping, Act.answer, Except.map] at h

/-- A mapping at a name is flattened alike, whether it became a record or not. -/
theorem plain_settled_entries_named {registry : Option RegistryId} {fresh : Bool} {name : String}
    {nullable : Bool} {v w : Value} {entries : Entries Value}
    (htypes : cat.FindsTypesOnly registry) (hentries : v.entries? = some entries)
    (hprepare : ∀ registry' t candidate, cat.FindsTypesOnly registry' →
      (prepare cat mode registry' t entries).answer = .ok candidate →
        plainEntries candidate = plainEntries entries)
    (h : settled cat mode registry fresh (.named name nullable) v = .ok w) : w.plain = v.plain := by
  rcases cat.wrapping?_named_cases registry name nullable with hfound | ⟨factory, hfound⟩
  · rw [settled_of_none hfound] at h
    cases h
    exact Value.plain_settle_none fresh v
  · obtain ⟨t, rfl, hinside⟩ := htypes.of_wrapping? hfound
    rw [settled_build hfound hentries] at h
    obtain ⟨⟨verdict, built⟩, hconstruct, rfl⟩ := Act.map_eq_ok.mp h
    obtain ⟨candidate, hcandidate, hjudged⟩ := Catalog.judged_of_construct hconstruct
    cases hvalid : built.header.valid with
    | false => simp -- the mapping stands
    | true =>
      have hdata : built.data = candidate := by
        rw [hjudged.data_eq, ← hjudged.valid_eq, hvalid, if_pos rfl]
      have hplain : v.plain = .dict none (plainEntries entries) := by
        cases v with
        | dict _ _ | view _ _ => obtain rfl := Option.some.inj hentries; rfl
        | _ => simp [Value.entries?] at hentries
      simp only [if_true, Record.toValue, Value.plain, hdata, hplain,
        hprepare _ t candidate hinside hcandidate]

mutual

/-- What wrapping leaves in the place of a value is flattened to what the value is flattened to. -/
theorem plain_settled : (v : Value) → v.IsTupleFree →
    ∀ {registry : Option RegistryId} {fresh : Bool} {d : Descriptor} {w : Value},
      cat.FindsTypesOnly registry → settled cat mode registry fresh d v = .ok w →
        w.plain = v.plain
  | .list mark items, hv, registry, fresh, d, w, htypes, h => by
      cases d with
      | named name nullable =>
          rw [settled_items_named rfl] at h
          cases h
          exact Value.plain_settle_none fresh _
      | array element nullable =>
          obtain ⟨mark', _, hsettled⟩ :=
            @settled_list_array cat mode registry fresh mark items element nullable
          rw [hsettled] at h
          obtain ⟨ws, hws, rfl⟩ := Act.map_eq_ok.mp h
          simp only [Value.plain, plain_settledItems items hv.2 htypes hws]
  | .tuple _ _, hv, _, _, _, _, _, _ => hv.1.elim
  | .dict _ entries, hv, _, fresh, d, w, htypes, h
  | .view _ entries, hv, _, fresh, d, w, htypes, h => by
      cases d with
      | named name nullable =>
          exact plain_settled_entries_named htypes rfl
            (fun _ _ _ hinside hcandidate => plain_prepare entries hv.2 hinside hcandidate) h
      | array element nullable =>
          rw [settled_entries_array rfl] at h
          cases h
          exact Value.plain_settle_none fresh _
  | .atom _ _, _, _, _, d, _, _, h | .buffer _ _, _, _, _, d, _, _, h | .set _, _, _, _, d, _, _, h
  | .record _ _ _, _, _, _, d, _, _, h => by
      rw [settled_of_solid rfl d] at h
      cases h
      rfl
  | .reference _, _, _, _, _, _, _, h => by rw [settled_reference h]

theorem plain_settledItems : (items : List Value) → ThroughoutItems Value.IsNoTuple items →
    ∀ {registry : Option RegistryId} {fresh : Bool} {element : Descriptor} {ws : List Value},
      cat.FindsTypesOnly registry → settledItems cat mode registry fresh element items = .ok ws →
        plainItems ws = plainItems items
  | [], _, _, _, _, _, _, h => by
      cases h
      rfl
  | v :: vs, hitems, _, _, _, _, htypes, h => by
      obtain ⟨w, rest, hw, hrest, rfl⟩ := settledItems_cons_eq_ok.mp h
      simp only [plainItems, plain_settled v hitems.1 htypes hw,
        plain_settledItems vs hitems.2 htypes hrest]

/-- The candidate for a record is flattened to what the data is flattened to. -/
theorem plain_prepare : (entries : List (Key × Value)) → ThroughoutEntries Value.IsNoTuple entries →
    ∀ {registry : Option RegistryId} {t : TypeId} {candidate : List (Key × Value)},
      cat.FindsTypesOnly registry → (prepare cat mode registry t entries).answer = .ok candidate →
        plainEntries candidate = plainEntries entries
  | [], _, _, _, _, _, h => by
      cases h
      rfl
  | (k, v) :: es, hentries, _, t, _, htypes, h => by
      obtain ⟨w, rest, hw, hrest, rfl⟩ := answer_prepare_cons_eq_ok.mp h
      have hfield : w.plain = v.plain := by
        rcases settledField_eq_ok.mp hw with ⟨_, rfl⟩ | ⟨d, _, hsettled⟩
        · exact Value.plain_copy v
        · exact plain_settled v hentries.1 htypes hsettled
      simp only [plainEntries, hfield, plain_prepare es hentries.2 htypes hrest]

end

/-- Wrapping a value by itself is no different. -/
theorem plain_wrap {registry : Option RegistryId} (htypes : cat.FindsTypesOnly registry)
    {d : Descriptor} {v w : Value} (hv : v.IsTupleFree)
    (h : (wrap cat mode registry d v).answer = .ok w) : w.plain = v.plain := by
  rw [answer_wrap] at h
  exact plain_settled v hv htypes h

end Plain

/-! ### Writes -/

theorem plainEntries_putAll (es more : Entries Value) :
    plainEntries (es.putAll more) = Entries.putAll (plainEntries es) (plainEntries more) := by
  simp only [plainEntries_eq_map]
  exact Entries.map_putAll Value.plain es more

theorem find?_plainEntries (key : Key) (es : Entries Value) :
    Entries.find? key (plainEntries es) = (es.find? key).map Value.plain := by
  rw [plainEntries_eq_map]
  exact Entries.find?_map Value.plain key es

end TypedRecord
