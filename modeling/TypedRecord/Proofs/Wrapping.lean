import TypedRecord.Proofs.Admission
import TypedRecord.Proofs.Remade

/-!
# TypedRecord.Proofs.Wrapping

What wrapping leaves in the place of a value.

`wrap?` answers a replacement or none, and whoever asks settles the two cases. `settled` is both
steps as one function into `Except`; it goes through arrays item by item (`settled_of_items`) and
through the entries of a record field by field (`answer_prepare_cons`), and elsewhere it changes
nothing but a mapping at a reference.

The main statement is `mismatch?_settled`: a value that matches its descriptor still matches it after
wrapping, whatever the registry builds. It needs no induction on the value, because a value that
matches is wrapped in arrays only.
-/

namespace TypedRecord

/-! ### Matching arrays and references -/

/-- A sequence matches a typed array when all its items match the element. -/
theorem mismatch?_array_iff {v : Value} {items : List Value} (h : v.items? = some items)
    (known : Option (List String)) (element : Descriptor) (nullable : Bool) :
    mismatch? known (.array element nullable) v = none ↔
      ∀ w ∈ items, mismatch? known element w = none := by
  cases v with
  | list mark vs =>
      obtain rfl : vs = items := Option.some.inj h
      simp only [mismatch?]
      exact itemMismatch?_eq_none_iff known element 0 vs
  | @tuple form mark vs =>
      obtain rfl : vs = items := Option.some.inj h
      simp only [mismatch?]
      exact itemMismatch?_eq_none_iff known element 0 vs
  | _ => simp [Value.items?] at h

/-- Nothing but null and sequences matches a typed array. -/
theorem mismatch?_array_of_no_items {v : Value} (h : v.items? = none) (hv : v.kind ≠ .nil)
    (known : Option (List String)) (element : Descriptor) (nullable : Bool) :
    mismatch? known (.array element nullable) v ≠ none := by
  cases v with
  | atom mark a => cases a <;> simp_all [mismatch?, Value.kind]
  | list mark vs => simp [Value.items?] at h
  | @tuple form mark vs => simp [Value.items?] at h
  | _ => simp [mismatch?]

/-- What matches a reference is null or bound to the schema that it names. -/
theorem schema?_of_mismatch? {known : Option (List String)} {name : String} {nullable : Bool}
    {v : Value} (hname : Descriptor.categoryOfName name = .reference) (hv : v.kind ≠ .nil)
    (h : mismatch? known (.named name nullable) v = none) : v.schema? = some name := by
  have hnone : nameMismatch? known name nullable v = none := by
    cases v with
    | atom mark a => cases a <;> simp_all [mismatch?, Value.kind]
    | _ => simpa only [mismatch?] using h
  have hmatches : nameMatches known name v = true := by
    simp only [nameMismatch?] at hnone
    by_cases hm : nameMatches known name v = true
    · exact hm
    · simp [hm] at hnone
  simp only [nameMatches, hname, Bool.and_eq_true, decide_eq_true_eq] at hmatches
  exact hmatches.2

/-! ### Where wrapping does something -/

namespace Catalog

theorem wrapping?_named (cat : Catalog) (registry : Option RegistryId) (name : String)
    (nullable : Bool) :
    cat.wrapping? registry (.named name nullable) =
      if Descriptor.categoryOfName name = .reference then
        registry.bind fun r => ((cat.registryAt r).find? name).map (Wrapping.build name)
      else none := by
  unfold wrapping?
  by_cases h : Descriptor.categoryOfName name = .reference
  · cases registry with
    | none => simp [Descriptor.referenced?, h]
    | some r => cases hf : (cat.registryAt r).find? name <;> simp [Descriptor.referenced?, h, hf]
  · simp [Descriptor.referenced?, h]

/-- Without a registry nothing is wrapped. -/
theorem wrapping?_unregistered (cat : Catalog) (d : Descriptor) : cat.wrapping? none d = none := by
  unfold wrapping?
  cases d.referenced? <;> rfl

/-- At a name wrapping does nothing, or it builds what the name refers to. -/
theorem wrapping?_named_cases (cat : Catalog) (registry : Option RegistryId) (name : String)
    (nullable : Bool) :
    cat.wrapping? registry (.named name nullable) = none ∨
      ∃ factory, cat.wrapping? registry (.named name nullable) = some (.build name factory) := by
  rw [wrapping?_named]
  split
  · cases registry with
    | none => exact .inl rfl
    | some r =>
        cases hfind : (cat.registryAt r).find? name with
        | none => exact .inl (by simp [hfind])
        | some factory => exact .inr ⟨factory, by simp [hfind]⟩
  · exact .inl rfl

/-- Wrapping looks into an array where it looks at the element. -/
theorem wrapping?_array (cat : Catalog) (registry : Option RegistryId) (element : Descriptor)
    (nullable : Bool) :
    cat.wrapping? registry (.array element nullable) =
      (cat.wrapping? registry element).map fun _ => .items element := by
  cases element with
  | named name inner =>
      rw [wrapping?_named]
      unfold wrapping?
      by_cases hname : Descriptor.categoryOfName name = .reference
      · cases registry with
        | none => simp [Descriptor.referenced?, hname]
        | some r =>
            cases hf : (cat.registryAt r).find? name <;>
              simp [Descriptor.referenced?, hname, hf]
      · simp [Descriptor.referenced?, hname]
  | array inner _ =>
      unfold wrapping?
      cases href : inner.referenced? with
      | none => simp [Descriptor.referenced?, href]
      | some target =>
          cases registry with
          | none => simp [Descriptor.referenced?, href]
          | some r =>
              cases hf : (cat.registryAt r).find? target <;>
                simp [Descriptor.referenced?, href, hf]

end Catalog

/-! ### What stands in the place of a value -/

/-- Whether a value has no parts that wrapping looks into. Records are wrapped already. -/
def Value.isSolid : Value → Bool
  | .atom _ _ | .buffer _ _ | .set _ | .record _ _ _ => true
  | _ => false

section Settled

variable (cat : Catalog) (mode : Mode) (registry : Option RegistryId) (fresh : Bool)

/-- The value that stands in the place of another after wrapping. -/
def settled (d : Descriptor) (v : Value) : Except Failure Value :=
  (wrap? cat mode registry fresh d v).answer.map fun replacement => settle fresh replacement v

/-- The items that stand in the places of others after wrapping. -/
def settledItems (element : Descriptor) (items : List Value) : Except Failure (List Value) :=
  items.mapM (settled cat mode registry fresh element)

/-- The value that stands in the place of a field of a new record. -/
def settledField (t : TypeId) (field : Key) (v : Value) : Except Failure Value :=
  match cat.wrappingDescriptor? t field with
  | .ok (some d) => settled cat mode registry true d v
  | .ok none => .ok v.copy
  | .error failure => .error failure

variable {cat mode registry fresh}

/-- A value that is wrapped by itself is not new to anything. -/
theorem answer_wrap (d : Descriptor) (v : Value) :
    (wrap cat mode registry d v).answer = settled cat mode registry false d v := by
  rw [wrap, Act.answer_bind, settled]
  cases (wrap? cat mode registry false d v).answer with
  | error failure => rfl
  | ok replacement => cases replacement <;> rfl

/-- Where the registry knows no schema of that name, a value stands. -/
theorem settled_of_none {d : Descriptor} (h : cat.wrapping? registry d = none) (v : Value) :
    settled cat mode registry fresh d v = .ok (settle fresh none v) := by
  simp [settled, wrap?_of_none h, Except.map]

/-- What has no parts to look into stands. -/
theorem settled_of_solid {v : Value} (h : v.isSolid = true) (d : Descriptor) :
    settled cat mode registry fresh d v = .ok v := by
  cases v with
  | list _ _ | tuple _ _ | dict _ _ | view _ _ | reference _ => cases h
  | _ => cases fresh <;> simp [settled, wrap?, settle, Except.map, Value.copy]

/-- At a name a sequence stands. -/
theorem settled_items_named {v : Value} {items : List Value} (h : v.items? = some items)
    (name : String) (nullable : Bool) :
    settled cat mode registry fresh (.named name nullable) v = .ok (settle fresh none v) := by
  rcases cat.wrapping?_named_cases registry name nullable with hfound | ⟨factory, hfound⟩
  · exact settled_of_none hfound v
  · cases v with
    | list _ _ | tuple _ _ => simp [settled, wrap?, hfound, Except.map]
    | _ => simp [Value.items?] at h

/-- At a typed array a mapping stands. -/
theorem settled_entries_array {v : Value} {entries : Entries Value}
    (h : v.entries? = some entries) (element : Descriptor) (nullable : Bool) :
    settled cat mode registry fresh (.array element nullable) v = .ok (settle fresh none v) := by
  have hwrapping := cat.wrapping?_array registry element nullable
  cases helement : cat.wrapping? registry element with
  | none =>
      rw [helement] at hwrapping
      exact settled_of_none hwrapping v
  | some wrapping =>
      rw [helement] at hwrapping
      cases v with
      | dict _ _ | view _ _ => simp [settled, wrap?, hwrapping, Except.map]
      | _ => simp [Value.entries?] at h

/-- Replacements are found item by item. -/
theorem answer_wrapItems_cons (d : Descriptor) (v : Value) (vs : List Value) :
    (wrapItems cat mode registry fresh d (v :: vs)).answer =
      (wrap? cat mode registry fresh d v).answer >>= fun replacement =>
        (wrapItems cat mode registry fresh d vs).answer >>= fun rest =>
          .ok (replacement :: rest) := by
  simp [wrapItems]

/-- Settling what wrapping answers for some items is settling them one by one. -/
theorem answer_wrapItems_map (d : Descriptor) (items : List Value) :
    ((wrapItems cat mode registry fresh d items).answer.map fun replacements =>
        settleItems fresh replacements items) = settledItems cat mode registry fresh d items := by
  induction items with
  | nil => rfl
  | cons v vs ih =>
    rw [answer_wrapItems_cons, settledItems, List.mapM_cons, ← settledItems, ← ih]
    unfold settled
    cases (wrap? cat mode registry fresh d v).answer with
    | error failure => rfl
    | ok replacement =>
      cases (wrapItems cat mode registry fresh d vs).answer <;> rfl

/-- Where no item is replaced, the items stand, copied if they are new. -/
theorem settleItems_of_none {replacements : List (Option Value)} {items : List Value}
    (hlength : replacements.length = items.length) (h : replacements.any Option.isSome = false) :
    settleItems fresh replacements items = items.map (settle fresh none) := by
  induction items generalizing replacements with
  | nil => simp [settleItems]
  | cons v vs ih =>
    cases replacements with
    | nil => simp at hlength
    | cons replacement rest =>
      simp only [List.any_cons, Bool.or_eq_false_iff, Option.isSome_eq_false_iff,
        Option.isNone_iff_eq_none] at h
      obtain ⟨rfl, hrest⟩ := h
      have := ih (by simpa using hlength) hrest
      simpa [settleItems] using this

theorem length_of_answer_wrapItems {d : Descriptor} {items : List Value}
    {replacements : List (Option Value)}
    (h : (wrapItems cat mode registry fresh d items).answer = .ok replacements) :
    replacements.length = items.length := by
  induction items generalizing replacements with
  | nil => cases h; rfl
  | cons v vs ih =>
    rw [answer_wrapItems_cons] at h
    obtain ⟨first, _, h⟩ := Act.bind_eq_ok.mp h
    obtain ⟨rest, hrest, h⟩ := Act.bind_eq_ok.mp h
    cases h
    simp [ih hrest]

theorem settle_false_none : settle false none = id := rfl

/-- A list that stands holds its items as they stand. -/
theorem settle_none_list (mark : Mark) (items : List Value) :
    settle fresh none (.list mark items) =
      .list (if fresh then none else mark) (items.map (settle fresh none)) := by
  cases fresh with
  | false => simp [settle_false_none]
  | true => simp [settle, Value.copy, copyItems_eq_map]

theorem settledItems_of_none {element : Descriptor} (h : cat.wrapping? registry element = none)
    (items : List Value) :
    settledItems cat mode registry fresh element items = .ok (items.map (settle fresh none)) := by
  induction items with
  | nil => rfl
  | cons v vs ih =>
    rw [settledItems, List.mapM_cons, ← settledItems, ih, settled_of_none h]
    rfl

/-- At a typed array a list stands with its items settled. It is made anew if it is new to the record, or
if one of its items is replaced. -/
theorem settled_list_array (mark : Mark) (items : List Value) (element : Descriptor)
    (nullable : Bool) :
    ∃ mark', (fresh = true → mark' = none) ∧
      settled cat mode registry fresh (.array element nullable) (.list mark items) =
        (settledItems cat mode registry fresh element items).map (.list mark') := by
  have hwrapping := cat.wrapping?_array registry element nullable
  have hstands : fresh = true → (if fresh then none else mark) = none := by
    intro h
    rw [if_pos h]
  cases helement : cat.wrapping? registry element with
  | none =>
      rw [helement] at hwrapping
      refine ⟨if fresh then none else mark, hstands, ?_⟩
      rw [settled_of_none hwrapping, settledItems_of_none helement, settle_none_list]
      rfl
  | some wrapping =>
      rw [helement] at hwrapping
      have hsettled := @answer_wrapItems_map cat mode registry fresh element items
      simp only [settled, wrap?, hwrapping, Option.map_some, Act.answer_bind]
      cases hitems : (wrapItems cat mode registry fresh element items).answer with
      | error failure =>
          rw [hitems] at hsettled
          exact ⟨none, fun _ => rfl, by rw [← hsettled]; rfl⟩
      | ok replacements =>
          rw [hitems] at hsettled
          cases hany : replacements.any Option.isSome with
          | true =>
              refine ⟨none, fun _ => rfl, ?_⟩
              rw [← hsettled]
              simp [bind, Except.bind, Except.map, hany, settle]
          | false =>
              have hstand := @settleItems_of_none fresh _ _ (length_of_answer_wrapItems hitems) hany
              refine ⟨if fresh then none else mark, hstands, ?_⟩
              rw [← hsettled]
              simp [bind, Except.bind, Except.map, hany, settle_none_list, hstand]

/-- At a typed array a tuple stands as it is where nothing is wrapped, and else turns into a list,
whether or not an item is replaced. Its items are never copied. -/
theorem settled_tuple_array (form : TupleForm) (mark : Mark) (items : List Value) (element : Descriptor)
    (nullable : Bool) :
    settled cat mode registry fresh (.array element nullable) (@Value.tuple form mark items) =
      if (cat.wrapping? registry element).isSome then
        (settledItems cat mode registry false element items).map (.list none)
      else .ok (@Value.tuple form mark items) := by
  have hwrapping := cat.wrapping?_array registry element nullable
  cases helement : cat.wrapping? registry element with
  | none =>
      rw [helement] at hwrapping
      rw [settled_of_none hwrapping]
      cases fresh <;> rfl
  | some wrapping =>
      rw [helement] at hwrapping
      rw [settled, ← answer_wrapItems_map]
      simp only [wrap?, hwrapping, Option.map_some, Act.answer_bind]
      cases (wrapItems cat mode registry false element items).answer <;>
        simp [bind, Except.bind, Except.map, settle]

/-- At a typed array a sequence stands with its items settled. -/
theorem settled_of_items {v : Value} {items : List Value} (h : v.items? = some items)
    (element : Descriptor) (nullable : Bool) :
    ∃ fresh' make, settled cat mode registry fresh (.array element nullable) v =
        (settledItems cat mode registry fresh' element items).map make ∧
      ∀ ws : List Value, (make ws).items? = some ws := by
  cases v with
  | list mark vs =>
      obtain rfl : vs = items := Option.some.inj h
      obtain ⟨mark', _, hsettled⟩ :=
        @settled_list_array cat mode registry fresh mark vs element nullable
      exact ⟨fresh, .list mark', hsettled, fun _ => rfl⟩
  | @tuple form mark vs =>
      obtain rfl : vs = items := Option.some.inj h
      rw [settled_tuple_array]
      cases helement : cat.wrapping? registry element with
      | none =>
          refine ⟨false, @Value.tuple form mark, ?_, fun _ => rfl⟩
          rw [settledItems_of_none helement, settle_false_none]
          simp [Except.map]
      | some wrapping => exact ⟨false, .list none, rfl, fun _ => rfl⟩
  | _ => simp [Value.items?] at h

/-- Settled items stand for the items one by one. -/
theorem settledItems_cons_eq_ok {element : Descriptor} {v : Value} {vs ws : List Value} :
    settledItems cat mode registry fresh element (v :: vs) = .ok ws ↔
      ∃ w rest, settled cat mode registry fresh element v = .ok w ∧
        settledItems cat mode registry fresh element vs = .ok rest ∧ ws = w :: rest := by
  rw [settledItems, List.mapM_cons, ← settledItems]
  constructor
  · intro h
    obtain ⟨w, hw, h⟩ := Act.bind_eq_ok.mp h
    obtain ⟨rest, hrest, h⟩ := Act.bind_eq_ok.mp h
    cases h
    exact ⟨w, rest, hw, hrest, rfl⟩
  · rintro ⟨w, rest, hw, hrest, rfl⟩
    rw [hw, hrest]
    rfl

/-- What wrapping makes of every value of some kind it makes of all items of that kind. -/
theorem forall_mem_settledItems {element : Descriptor} {P Q : Value → Prop}
    (hstep : ∀ {v w}, P v → settled cat mode registry fresh element v = .ok w → Q w)
    {items ws : List Value} (h : settledItems cat mode registry fresh element items = .ok ws)
    (hitems : ∀ v ∈ items, P v) : ∀ w ∈ ws, Q w := by
  induction items generalizing ws with
  | nil =>
      cases h
      simp
  | cons x xs ih =>
      obtain ⟨y, rest, hy, hrest, rfl⟩ := settledItems_cons_eq_ok.mp h
      obtain ⟨hx, hxs⟩ := List.forall_mem_cons.mp hitems
      exact List.forall_mem_cons.mpr ⟨hstep hx hy, ih hrest hxs⟩

/-! ### The candidate for a record -/

/-- The candidate is made field by field. -/
theorem answer_prepare_cons (t : TypeId) (k : Key) (v : Value) (es : List (Key × Value)) :
    (prepare cat mode registry t ((k, v) :: es)).answer =
      settledField cat mode registry t k v >>= fun w =>
        (prepare cat mode registry t es).answer >>= fun rest => .ok ((k, w) :: rest) := by
  simp only [prepare, settledField]
  cases cat.wrappingDescriptor? t k with
  | error failure => rfl
  | ok descriptor =>
      cases descriptor with
      | none =>
          simp only [Act.answer_bind, Act.answer_pure]
          rfl
      | some d =>
          simp only [Act.answer_bind, Act.answer_pure, settled]
          cases (wrap? cat mode registry true d v).answer <;> rfl

/-- A field has a descriptor to be settled at, or its value is copied. -/
theorem settledField_eq_ok {t : TypeId} {field : Key} {v w : Value} :
    settledField cat mode registry t field v = .ok w ↔
      (cat.wrappingDescriptor? t field = .ok none ∧ w = v.copy) ∨
        ∃ d, cat.wrappingDescriptor? t field = .ok (some d) ∧
          settled cat mode registry true d v = .ok w := by
  unfold settledField
  cases cat.wrappingDescriptor? t field with
  | error failure => simp
  | ok descriptor => cases descriptor <;> simp [eq_comm]

/-- The candidate has the settled value of each entry under its key. -/
theorem answer_prepare_cons_eq_ok {t : TypeId} {k : Key} {v : Value} {es : List (Key × Value)}
    {candidate : Entries Value} :
    (prepare cat mode registry t ((k, v) :: es)).answer = .ok candidate ↔
      ∃ w rest, settledField cat mode registry t k v = .ok w ∧
        (prepare cat mode registry t es).answer = .ok rest ∧ candidate = (k, w) :: rest := by
  rw [answer_prepare_cons]
  constructor
  · intro h
    obtain ⟨w, hw, h⟩ := Act.bind_eq_ok.mp h
    obtain ⟨rest, hrest, h⟩ := Act.bind_eq_ok.mp h
    cases h
    exact ⟨w, rest, hw, hrest, rfl⟩
  · rintro ⟨w, rest, hw, hrest, rfl⟩
    rw [hw, hrest]
    rfl

/-- The candidate has the keys of the data that it is made of. -/
theorem keys_of_answer_prepare {t : TypeId} {es candidate : List (Key × Value)}
    (h : (prepare cat mode registry t es).answer = .ok candidate) :
    Entries.keys candidate = Entries.keys es := by
  induction es generalizing candidate with
  | nil => cases h; rfl
  | cons e es ih =>
    obtain ⟨k, v⟩ := e
    obtain ⟨w, rest, _, hrest, rfl⟩ := answer_prepare_cons_eq_ok.mp h
    simpa [Entries.keys] using ih hrest

/-- A record is built where the values can be copied, of the candidate that is prepared and judged. -/
theorem Catalog.answer_construct_eq_ok {t : TypeId} {setup : Setup} {entries : Entries Value}
    {out : Verdict × Record} :
    (cat.construct t mode setup entries).answer = .ok out ↔
      copyable entries = .ok () ∧
        ∃ candidate, (prepare cat mode setup.registry t entries).answer = .ok candidate ∧
          (cat.judge t mode setup candidate).answer = .ok out := by
  simp only [Catalog.construct, Act.answer_bind, Act.answer_ofExcept]
  constructor
  · intro h
    obtain ⟨_, hcopyable, h⟩ := Act.bind_eq_ok.mp h
    exact ⟨hcopyable, Act.bind_eq_ok.mp h⟩
  · rintro ⟨hcopyable, candidate, hcandidate, hout⟩
    rw [hcopyable, hcandidate]
    exact hout

/-- What is built is what was judged. -/
theorem Catalog.judged_of_construct {t : TypeId} {setup : Setup} {entries : Entries Value}
    {verdict : Verdict} {built : Record}
    (h : (cat.construct t mode setup entries).answer = .ok (verdict, built)) :
    ∃ candidate, (prepare cat mode setup.registry t entries).answer = .ok candidate ∧
      cat.Judged t mode setup candidate verdict built := by
  obtain ⟨_, candidate, hcandidate, hout⟩ := Catalog.answer_construct_eq_ok.mp h
  exact ⟨candidate, hcandidate, Catalog.judged_of_judge hout⟩

/-- A mapping at a reference to a record type stands as a record of that type, or, where that would
not be valid, as what it is. -/
theorem answer_wrap?_build {d : Descriptor} {target : String} {t : TypeId} {v : Value}
    {entries : Entries Value} (hwrapping : cat.wrapping? registry d = some (.build target (.type t)))
    (hentries : v.entries? = some entries) :
    (wrap? cat mode registry fresh d v).answer =
      (cat.construct t mode (cat.defaultSetup t) entries).answer >>= fun out =>
        .ok (if out.2.header.valid then some (out.2.toValue none) else none) := by
  have hbuild (next : Verdict × Record → Traced (Option Value))
      (hnext : ∀ out, (next out).answer =
        .ok (if out.2.header.valid then some (out.2.toValue none) else none)) :
      (Act.ofExcept (copyable entries) >>= fun _ =>
        prepare cat mode (cat.defaultSetup t).registry t entries >>= fun candidate =>
          cat.judge t mode (cat.defaultSetup t) candidate >>= next : Traced (Option Value)).answer =
      (cat.construct t mode (cat.defaultSetup t) entries).answer >>= fun out =>
        .ok (if out.2.header.valid then some (out.2.toValue none) else none) := by
    simp only [Catalog.construct, Act.answer_bind, hnext, bind_assoc]
  -- At a record type mappings and views of mappings are built from alike.
  cases v with
  | dict mark es =>
      obtain rfl : es = entries := Option.some.inj hentries
      simp only [wrap?, hwrapping]
      refine hbuild _ fun out => ?_
      cases out.2.header.valid with
      | false => simp only [keptRaw]; rfl
      | true => simp only [keptRaw]; rfl
  | view mark es =>
      obtain rfl : es = entries := Option.some.inj hentries
      simp only [wrap?, hwrapping]
      refine hbuild _ fun out => ?_
      cases out.2.header.valid with
      | false => simp only [keptRaw]; rfl
      | true => simp only [keptRaw]; rfl
  | _ => simp [Value.entries?] at hentries

/-- What stands for a mapping at a reference to a record type. -/
theorem settled_build {d : Descriptor} {target : String} {t : TypeId} {v : Value}
    {entries : Entries Value} (hwrapping : cat.wrapping? registry d = some (.build target (.type t)))
    (hentries : v.entries? = some entries) :
    settled cat mode registry fresh d v =
      (cat.construct t mode (cat.defaultSetup t) entries).answer.map fun out =>
        if out.2.header.valid then out.2.toValue none else settle fresh none v := by
  rw [settled, answer_wrap?_build hwrapping hentries]
  cases (cat.construct t mode (cat.defaultSetup t) entries).answer with
  | error failure => rfl
  | ok out => cases hvalid : out.2.header.valid <;> simp [bind, Except.bind, Except.map, hvalid, settle]

/-- What stands for a mapping at a name for which something bound to a schema is built. -/
theorem settled_bound {d : Descriptor} {target schema : String} {v : Value}
    {entries : Entries Value}
    (hwrapping : cat.wrapping? registry d = some (.build target (.bound schema)))
    (hentries : v.entries? = some entries) :
    settled cat mode registry fresh d v = .ok (.atom none (.bound none schema)) := by
  cases v with
  | dict _ _ | view _ _ => simp [settled, wrap?, hwrapping, settle, Except.map]
  | _ => simp [Value.entries?] at hentries

/-- What stands for a mapping at a name whose factory shows its arguments: the mapping itself, which may
have been copied, next to the word for the mode. -/
theorem settled_echo {d : Descriptor} {target : String} {v : Value} {entries : Entries Value}
    (hwrapping : cat.wrapping? registry d = some (.build target .echo))
    (hentries : v.entries? = some entries) :
    ∃ shown, (shown = entries ∨ shown = copyEntries entries) ∧
      settled cat mode registry fresh d v =
        .ok (.list none [.dict none shown, .str mode.word]) := by
  cases v with
  | dict _ es =>
      obtain rfl : es = entries := Option.some.inj hentries
      refine ⟨if fresh then copyEntries es else es, ?_, ?_⟩
      · cases fresh with
        | false => exact .inl rfl
        | true => exact .inr rfl
      · simp [settled, wrap?, hwrapping, settle, Except.map]
  | view _ es =>
      obtain rfl : es = entries := Option.some.inj hentries
      exact ⟨es, .inl rfl, by simp [settled, wrap?, hwrapping, settle, Except.map]⟩
  | _ => simp [Value.entries?] at hentries

/-! ### A matching value still matches -/

/-- A value that matches a reference is null or bound to a schema, so it is no mapping and stands. -/
theorem settled_of_matches_reference {known : Option (List String)} {name : String} {v : Value}
    (hname : Descriptor.categoryOfName name = .reference) {nullable : Bool}
    (hmatch : mismatch? known (.named name nullable) v = none) :
    settled cat mode registry fresh (.named name nullable) v = .ok v := by
  by_cases hnil : v.kind = .nil
  · cases v with
    | atom mark a => exact settled_of_solid rfl _
    | _ => simp [Value.kind] at hnil
  · have hschema := schema?_of_mismatch? hname hnil hmatch
    cases v with
    | atom mark a => exact settled_of_solid rfl _
    | record mark header data => exact settled_of_solid rfl _
    | _ => simp [Value.schema?] at hschema

/-- Nothing but sequences matches a typed array, except null. -/
theorem settled_of_matches_array {known : Option (List String)} {v : Value} (hitems : v.items? = none)
    {element : Descriptor} {nullable : Bool}
    (hmatch : mismatch? known (.array element nullable) v = none) :
    settled cat mode registry fresh (.array element nullable) v = .ok v := by
  have hnil : v.kind = .nil := by
    by_cases hnil : v.kind = .nil
    · exact hnil
    · exact absurd hmatch (mismatch?_array_of_no_items hitems hnil known element nullable)
  cases v with
  | atom mark a => exact settled_of_solid rfl _
  | _ => simp [Value.kind] at hnil

/-- A value that matches its descriptor matches it after wrapping too, whatever the registry
builds. -/
theorem mismatch?_settled {known : Option (List String)} {d : Descriptor} {v w : Value}
    (hmatch : mismatch? known d v = none)
    (h : settled cat mode registry fresh d v = .ok w) : mismatch? known d w = none := by
  induction d generalizing fresh v w with
  | named name nullable =>
      cases hwrapping : cat.wrapping? registry (.named name nullable) with
      | none =>
          rw [settled_of_none hwrapping] at h
          cases h
          cases fresh with
          | false => exact hmatch
          | true => exact (mismatch?_copy known _ v).trans hmatch
      | some wrapping =>
          have hname : Descriptor.categoryOfName name = .reference := by
            rw [Catalog.wrapping?_named] at hwrapping
            split at hwrapping
            · assumption
            · cases hwrapping
          rw [settled_of_matches_reference hname hmatch] at h
          cases h
          exact hmatch
  | array element nullable ih =>
      cases hitems : v.items? with
      | none =>
          rw [settled_of_matches_array hitems hmatch] at h
          cases h
          exact hmatch
      | some items =>
          obtain ⟨fresh', make, hsettled, hmake⟩ :=
            @settled_of_items cat mode registry fresh v items hitems element nullable
          rw [hsettled] at h
          cases hws : settledItems cat mode registry fresh' element items with
          | error failure => rw [hws] at h; cases h
          | ok ws =>
              rw [hws] at h
              cases h
              rw [mismatch?_array_iff (hmake ws)]
              exact forall_mem_settledItems ih hws
                ((mismatch?_array_iff hitems known element nullable).mp hmatch)

end Settled

end TypedRecord
