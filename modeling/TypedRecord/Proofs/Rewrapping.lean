import TypedRecord.Proofs.Wrapping

/-!
# TypedRecord.Proofs.Rewrapping

Wrapping twice is wrapping once.

Whatever wrapping leaves in the place of a value stands from then on: `answer_wrap?_of_settled`. The
induction is on the descriptor, and there is one place where something is built a second time, a mapping
that stands because the record that could be built of it would not be valid. It may have been copied in
between, so the same has to be built of a copy (`prepare_copyEntries`).
-/

namespace TypedRecord

/-! ### Copies of copies -/

mutual

@[simp] theorem Value.copy_copy : (v : Value) → v.copy.copy = v.copy
  | .list _ items => by simp [Value.copy, copyItems_copyItems items]
  | .dict _ entries => by simp [Value.copy, copyEntries_copyEntries entries]
  | .atom _ _ | .reference _ | .buffer _ _ | .tuple _ _ | .set _ | .view _ _ | .record _ _ _ => rfl

@[simp] theorem copyItems_copyItems : (items : List Value) →
    copyItems (copyItems items) = copyItems items
  | [] => rfl
  | v :: vs => by simp [copyItems, Value.copy_copy v, copyItems_copyItems vs]

@[simp] theorem copyEntries_copyEntries : (es : List (Key × Value)) →
    copyEntries (copyEntries es) = copyEntries es
  | [] => rfl
  | (_, v) :: es => by simp [copyEntries, Value.copy_copy v, copyEntries_copyEntries es]

end

mutual

/-- A copy can be copied where the original can. -/
@[simp] theorem Value.meets_copy : (v : Value) →
    v.copy.meets Value.isCopiedDeeply = v.meets Value.isCopiedDeeply
  | .list _ items => by
      simp [Value.copy, Value.meets, Value.isCopiedDeeply, anyMeets_copyItems items]
  | .dict _ entries => by
      simp [Value.copy, Value.meets, Value.isCopiedDeeply, anyEntryMeets_copyEntries entries]
  | .atom _ _ | .reference _ | .buffer _ _ | .tuple _ _ | .set _ | .view _ _ | .record _ _ _ => rfl

theorem anyMeets_copyItems : (items : List Value) →
    anyMeets Value.isCopiedDeeply (copyItems items) = anyMeets Value.isCopiedDeeply items
  | [] => rfl
  | v :: vs => by simp [copyItems, anyMeets, Value.meets_copy v, anyMeets_copyItems vs]

theorem anyEntryMeets_copyEntries : (es : List (Key × Value)) →
    anyEntryMeets Value.isCopiedDeeply (copyEntries es) =
      anyEntryMeets Value.isCopiedDeeply es
  | [] => rfl
  | (_, v) :: es => by
      simp [copyEntries, anyEntryMeets, Value.meets_copy v, anyEntryMeets_copyEntries es]

end

@[simp] theorem copyable_copyEntries (es : Entries Value) :
    copyable (copyEntries es) = copyable es := by
  have hany : (copyEntries es).any (fun e => e.2.meets Value.isCopiedDeeply) =
      es.any fun e => e.2.meets Value.isCopiedDeeply := by
    simp [copyEntries_eq_map, List.any_map, Function.comp_def]
  rw [copyable, hany, copyable]

@[simp] theorem settle_true_copy (replacement : Option Value) (v : Value) :
    settle true replacement v.copy = settle true replacement v := by
  cases replacement <;> simp [settle]

@[simp] theorem settleItems_true_copyItems (replacements : List (Option Value))
    (items : List Value) :
    settleItems true replacements (copyItems items) = settleItems true replacements items := by
  simp [settleItems, copyItems_eq_map, List.zipWith_map_right]

section Rewrapped

variable {cat : Catalog} {mode : Mode}

/-! ### Wrapping a copy -/

mutual

/-- A copy that is new to a record is wrapped like the original. -/
theorem wrap?_copy (registry : Option RegistryId) (d : Descriptor) : (v : Value) →
    wrap? cat mode registry true d v.copy = wrap? cat mode registry true d v
  | .list mark items => by
      cases hwrapping : cat.wrapping? registry d with
      | none => rw [wrap?_of_none hwrapping, wrap?_of_none hwrapping]
      | some wrapping =>
          cases wrapping with
          | build _ _ => simp only [Value.copy, wrap?, hwrapping]
          | items element =>
              simp only [Value.copy, wrap?, hwrapping, wrapItems_copyItems registry element items,
                settleItems_true_copyItems]
  | .dict mark entries => by
      cases hwrapping : cat.wrapping? registry d with
      | none => rw [wrap?_of_none hwrapping, wrap?_of_none hwrapping]
      | some wrapping =>
          cases wrapping with
          | items _ => simp only [Value.copy, wrap?, hwrapping]
          | build target factory =>
              cases factory with
              | type t =>
                  simp only [Value.copy, wrap?, hwrapping, copyable_copyEntries,
                    prepare_copyEntries _ t entries]
              | bound schema => simp only [Value.copy, wrap?, hwrapping]
              | echo => simp only [Value.copy, wrap?, hwrapping, if_true, copyEntries_copyEntries]
  | .atom _ _ | .reference _ | .buffer _ _ | .tuple _ _ | .set _ | .view _ _ | .record _ _ _ => rfl

theorem wrapItems_copyItems (registry : Option RegistryId) (d : Descriptor) :
    (items : List Value) → wrapItems cat mode registry true d (copyItems items) =
      wrapItems cat mode registry true d items
  | [] => rfl
  | v :: vs => by
      simp only [copyItems, wrapItems, wrap?_copy registry d v, wrapItems_copyItems registry d vs]

/-- Of the copies of some entries the candidate is prepared that is prepared of the entries. -/
theorem prepare_copyEntries (registry : Option RegistryId) (t : TypeId) :
    (es : List (Key × Value)) →
      prepare cat mode registry t (copyEntries es) = prepare cat mode registry t es
  | [] => rfl
  | (k, v) :: es => by
      cases hd : cat.wrappingDescriptor? t k with
      | error failure => simp only [copyEntries, prepare, hd, prepare_copyEntries registry t es]; rfl
      | ok descriptor =>
          cases descriptor with
          | none =>
              simp only [copyEntries, prepare, hd, prepare_copyEntries registry t es,
                settle_true_copy]
          | some d =>
              simp only [copyEntries, prepare, hd, prepare_copyEntries registry t es,
                settle_true_copy, wrap?_copy registry d v]

end

/-- Of copies of some entries the record is built that is built of the entries. -/
theorem Catalog.construct_copyEntries (t : TypeId) (setup : Setup) (entries : Entries Value) :
    cat.construct t mode setup (copyEntries entries) = cat.construct t mode setup entries := by
  simp only [construct, copyable_copyEntries, prepare_copyEntries]

/-! ### What stands -/

/-- What wrapping has to do with a value depends on whether it has parts, and on which. -/
theorem Value.form (v : Value) : v.isSolid = true ∨ (∃ items, v.items? = some items) ∨
    (∃ entries, v.entries? = some entries) ∨ ∃ mark, v = .reference mark := by
  cases v with
  | atom _ _ | buffer _ _ | set _ | record _ _ _ => exact .inl rfl
  | list _ items | tuple _ items => exact .inr (.inl ⟨items, rfl⟩)
  | dict _ entries | view _ entries => exact .inr (.inr (.inl ⟨entries, rfl⟩))
  | reference mark => exact .inr (.inr (.inr ⟨mark, rfl⟩))

/-- At an array wrapping does nothing, or it goes through the items. -/
theorem Catalog.wrapping?_array_cases (cat : Catalog) (registry : Option RegistryId)
    (element : Descriptor) (nullable : Bool) :
    cat.wrapping? registry (.array element nullable) = none ∨
      cat.wrapping? registry (.array element nullable) = some (.items element) := by
  rw [wrapping?_array]
  cases cat.wrapping? registry element with
  | none => exact .inl rfl
  | some wrapping => exact .inr rfl

variable {registry : Option RegistryId} {fresh : Bool}

/-- Where nothing is wrapped, every value stands. -/
theorem answer_wrap?_of_none {d : Descriptor} (h : cat.wrapping? registry d = none) (v : Value) :
    (wrap? cat mode registry fresh d v).answer = .ok none := by
  rw [wrap?_of_none h]
  rfl

/-- What has no parts to look into stands. -/
theorem answer_wrap?_of_solid {v : Value} (h : v.isSolid = true) (d : Descriptor) :
    (wrap? cat mode registry fresh d v).answer = .ok none := by
  cases v with
  | list _ _ | tuple _ _ | dict _ _ | view _ _ | reference _ => cases h
  | _ => simp [wrap?]

/-- A sequence stands at a name. -/
theorem answer_wrap?_items_named {v : Value} {items : List Value} (h : v.items? = some items)
    (name : String) (nullable : Bool) :
    (wrap? cat mode registry fresh (.named name nullable) v).answer = .ok none := by
  rcases cat.wrapping?_named_cases registry name nullable with hnone | ⟨factory, hfound⟩
  · exact answer_wrap?_of_none hnone v
  · cases v with
    | list _ _ | tuple _ _ => simp [wrap?, hfound]
    | _ => simp [Value.items?] at h

/-- A mapping stands at a typed array. -/
theorem answer_wrap?_entries_array {v : Value} {entries : Entries Value}
    (h : v.entries? = some entries) (element : Descriptor) (nullable : Bool) :
    (wrap? cat mode registry fresh (.array element nullable) v).answer = .ok none := by
  rcases cat.wrapping?_array_cases registry element nullable with hnone | hfound
  · exact answer_wrap?_of_none hnone v
  · cases v with
    | dict _ _ | view _ _ => simp [wrap?, hfound]
    | _ => simp [Value.entries?] at h

/-- A list stands at a typed array if its items do. -/
theorem answer_wrap?_list_array {element : Descriptor} {items : List Value}
    (h : ∀ v ∈ items, (wrap? cat mode registry fresh element v).answer = .ok none) (mark : Mark)
    (nullable : Bool) :
    (wrap? cat mode registry fresh (.array element nullable) (.list mark items)).answer =
      .ok none := by
  have hitems : (wrapItems cat mode registry fresh element items).answer =
      .ok (items.map fun _ => none) := by
    induction items with
    | nil => rfl
    | cons v vs ih =>
        obtain ⟨hv, hvs⟩ := List.forall_mem_cons.mp h
        rw [answer_wrapItems_cons, hv, ih hvs]
        rfl
  rcases cat.wrapping?_array_cases registry element nullable with hnone | hfound
  · exact answer_wrap?_of_none hnone _
  · simp only [wrap?, hfound, Act.answer_bind, hitems]
    simp [bind, Except.bind]

/-! ### Wrapping what was wrapped -/

/-- A sequence that stands is a sequence. -/
theorem exists_items?_settle_none {v : Value} {items : List Value} (h : v.items? = some items) :
    ∃ shown, (settle fresh none v).items? = some shown := by
  cases v with
  | list mark vs =>
      rw [settle_none_list]
      exact ⟨_, rfl⟩
  | @tuple form mark vs => cases fresh <;> exact ⟨vs, rfl⟩
  | _ => simp [Value.items?] at h

/-- A mapping that stands is one of the same entries, or of copies of them. -/
theorem exists_entries?_settle_none {v : Value} {entries : Entries Value}
    (h : v.entries? = some entries) :
    ∃ shown, (settle fresh none v).entries? = some shown ∧
      (shown = entries ∨ shown = copyEntries entries) := by
  cases v with
  | dict mark es =>
      obtain rfl : es = entries := Option.some.inj h
      cases fresh with
      | false => exact ⟨es, rfl, .inl rfl⟩
      | true => exact ⟨copyEntries es, rfl, .inr rfl⟩
  | view mark es =>
      obtain rfl : es = entries := Option.some.inj h
      cases fresh <;> exact ⟨es, rfl, .inl rfl⟩
  | _ => simp [Value.entries?] at h

/-- What is left in the place of a mapping for which a record type is built stands. If it is the
mapping, nothing valid was built of it, and nothing valid is built of it or its copy again. -/
theorem answer_wrap?_of_settled_build {d : Descriptor} {target : String} {t : TypeId} {v w : Value}
    {entries : Entries Value} (hfound : cat.wrapping? registry d = some (.build target (.type t)))
    (hentries : v.entries? = some entries) (h : settled cat mode registry fresh d v = .ok w) :
    (wrap? cat mode registry false d w).answer = .ok none := by
  rw [settled_build hfound hentries] at h
  obtain ⟨out, hout, rfl⟩ := Act.map_eq_ok.mp h
  cases hvalid : out.2.header.valid with
  | true =>
      rw [if_pos rfl]
      exact answer_wrap?_of_solid rfl _
  | false =>
      obtain ⟨shown, hshown, hsame⟩ := @exists_entries?_settle_none fresh v entries hentries
      have hagain : (cat.construct t mode (cat.defaultSetup t) shown).answer = .ok out := by
        rcases hsame with rfl | rfl
        · exact hout
        · rw [Catalog.construct_copyEntries, hout]
      rw [if_neg Bool.false_ne_true, answer_wrap?_build hfound hshown, hagain]
      simp [bind, Except.bind, hvalid]

/-- What is left in the place of a value at a name stands. -/
theorem answer_wrap?_of_settled_named {name : String} {nullable : Bool} {v w : Value}
    (h : settled cat mode registry fresh (.named name nullable) v = .ok w) :
    (wrap? cat mode registry false (.named name nullable) w).answer = .ok none := by
  rcases cat.wrapping?_named_cases registry name nullable with hnone | ⟨factory, hfound⟩
  · exact answer_wrap?_of_none hnone w
  · rcases v.form with hsolid | ⟨items, hitems⟩ | ⟨entries, hentries⟩ | ⟨mark, rfl⟩
    · rw [settled_of_solid hsolid] at h
      cases h
      exact answer_wrap?_of_solid hsolid _
    · rw [settled_items_named hitems] at h
      cases h
      obtain ⟨shown, hshown⟩ := @exists_items?_settle_none fresh v items hitems
      exact answer_wrap?_items_named hshown name nullable
    · cases factory with
      | type t => exact answer_wrap?_of_settled_build hfound hentries h
      | bound schema =>
          rw [settled_bound hfound hentries] at h
          cases h
          exact answer_wrap?_of_solid rfl _
      | echo =>
          obtain ⟨shown, _, hsettled⟩ :=
            @settled_echo cat mode registry fresh _ _ _ _ hfound hentries
          rw [hsettled] at h
          cases h
          exact answer_wrap?_items_named rfl name nullable
    · simp only [settled, wrap?, hfound, Option.isSome_some, if_true] at h
      cases h

/-- What is left in the place of a value at a typed array stands, if what is left in the places of its
items does. -/
theorem answer_wrap?_of_settled_array {element : Descriptor} {nullable : Bool} {v w : Value}
    (hstand : ∀ {fresh : Bool} {x y : Value}, settled cat mode registry fresh element x = .ok y →
      (wrap? cat mode registry false element y).answer = .ok none)
    (h : settled cat mode registry fresh (.array element nullable) v = .ok w) :
    (wrap? cat mode registry false (.array element nullable) w).answer = .ok none := by
  rcases cat.wrapping?_array_cases registry element nullable with hnone | hfound
  · exact answer_wrap?_of_none hnone w
  · have hleft {fresh : Bool} {items ws : List Value}
        (hws : settledItems cat mode registry fresh element items = .ok ws) :
        ∀ y ∈ ws, (wrap? cat mode registry false element y).answer = .ok none :=
      forall_mem_settledItems (P := fun _ => True) (fun _ hy => hstand hy) hws fun _ _ => trivial
    cases v with
    | atom _ _ | buffer _ _ | set _ | record _ _ _ =>
        rw [settled_of_solid rfl] at h
        cases h
        exact answer_wrap?_of_solid rfl _
    | list mark items =>
        obtain ⟨mark', _, hsettled⟩ :=
          @settled_list_array cat mode registry fresh mark items element nullable
        rw [hsettled] at h
        obtain ⟨ws, hws, rfl⟩ := Act.map_eq_ok.mp h
        exact answer_wrap?_list_array (hleft hws) mark' nullable
    | @tuple form mark items =>
        -- Where the items are wrapped, a tuple has become a list.
        rw [Catalog.wrapping?_array, Option.map_eq_some_iff] at hfound
        obtain ⟨wrapping, hwrapping, _⟩ := hfound
        rw [settled_tuple_array, if_pos (by rw [hwrapping]; rfl)] at h
        obtain ⟨ws, hws, rfl⟩ := Act.map_eq_ok.mp h
        exact answer_wrap?_list_array (hleft hws) none nullable
    | dict mark entries | view mark entries =>
        rw [settled_entries_array rfl] at h
        cases h
        cases fresh <;> exact answer_wrap?_entries_array rfl element nullable
    | reference mark =>
        simp only [settled, wrap?, hfound, Option.isSome_some, if_true] at h
        cases h

/-- What is left in the place of a value stands. -/
theorem answer_wrap?_of_settled {d : Descriptor} {v w : Value}
    (h : settled cat mode registry fresh d v = .ok w) :
    (wrap? cat mode registry false d w).answer = .ok none := by
  induction d generalizing fresh v w with
  | named name nullable => exact answer_wrap?_of_settled_named h
  | array element nullable ih => exact answer_wrap?_of_settled_array ih h

/-- Every field of a candidate stands. -/
theorem answer_wrap?_of_prepare {t : TypeId} {es candidate : List (Key × Value)}
    (h : (prepare cat mode registry t es).answer = .ok candidate) :
    ∀ e ∈ candidate, cat.wrappingDescriptor? t e.1 = .ok none ∨
      ∃ d, cat.wrappingDescriptor? t e.1 = .ok (some d) ∧
        (wrap? cat mode registry false d e.2).answer = .ok none := by
  induction es generalizing candidate with
  | nil =>
      cases h
      simp
  | cons e es ih =>
      obtain ⟨k, v⟩ := e
      obtain ⟨w, rest, hw, hrest, rfl⟩ := answer_prepare_cons_eq_ok.mp h
      refine List.forall_mem_cons.mpr ⟨?_, ih hrest⟩
      rcases settledField_eq_ok.mp hw with ⟨hd, _⟩ | ⟨d, hd, hsettled⟩
      · exact .inl hd
      · exact .inr ⟨d, hd, answer_wrap?_of_settled hsettled⟩

end Rewrapped

end TypedRecord
