import TypedRecord.Proofs.Extension
import TypedRecord.Proofs.Modes

/-!
# TypedRecord.Proofs.Widening

Extending record types by fields that records may lack.

A field is fresh to a type that neither declares it nor reserves it, if null may stand in it. Types that
are continued by fresh fields keep all records that strict mode has accepted, and the records that hold
them, however deep: what strict mode accepts has no keys but declared ones (`BuiltOf.declaresKeys`), so
no fresh field is there to be judged, and the absent field is in order. Nor is any value wrapped
otherwise than before. A mapping that strict mode rejects may well be accepted now, but then the record
around it had been rejected before (`mismatch?_mapping_at_reference`).
-/

namespace TypedRecord

namespace Catalog

/-- Fields that a type neither declares nor reserves, and that records of it may lack. -/
structure FreshFields (cat : Catalog) (t : TypeId) (fields : Schema) : Prop where
  undeclared : ∀ k ∈ Entries.keys fields, (cat.schemaOf t).has k = false
  unreserved : ∀ k ∈ Entries.keys fields, k.same (cat.sideKey t) = false
  nullable : ∀ f ∈ fields, ∃ d, f.2.descriptor = .ok d ∧ d.nullable = true

/-- In the second catalog the schemas of the first, other than empty ones, may go on with fresh fields.
All else is the same. -/
structure Widens (cat cat' : Catalog) : Prop where
  registries_eq : cat'.registries = cat.registries
  registryOf_eq : ∀ t, cat'.registryOf t = cat.registryOf t
  typeName_eq : ∀ t, cat'.typeName t = cat.typeName t
  sideKey_eq : ∀ t, cat'.sideKey t = cat.sideKey t
  schemaOf_eq : ∀ t, ∃ fresh, cat.FreshFields t fresh ∧ (cat.schemaOf t = [] → fresh = []) ∧
    cat'.schemaOf t = cat.schemaOf t ++ fresh

namespace Widens

variable {cat cat' : Catalog} {t : TypeId} {setup : Setup} {es candidate : Entries Value}

/-! ### What widening leaves as it is -/

theorem known_eq (h : cat.Widens cat') (registry : Option RegistryId) :
    cat'.known registry = cat.known registry := by
  unfold known registryAt
  rw [h.registries_eq]

theorem wrapping?_eq (h : cat.Widens cat') (registry : Option RegistryId) (d : Descriptor) :
    cat'.wrapping? registry d = cat.wrapping? registry d := by
  unfold wrapping? registryAt
  rw [h.registries_eq]

theorem defaultSetup_eq (h : cat.Widens cat') (t : TypeId) :
    cat'.defaultSetup t = cat.defaultSetup t := by
  unfold defaultSetup
  rw [h.registryOf_eq]

theorem setupFor_eq (h : cat.Widens cat') (t : TypeId) (sink : Sink) :
    cat'.setupFor t none none sink = cat.setupFor t none none sink := by
  unfold setupFor
  rw [h.registryOf_eq]

theorem blank_eq (h : cat.Widens cat') (t : TypeId) (mode : Mode) (setup : Setup) :
    cat'.blank t mode setup = cat.blank t mode setup := by
  unfold blank
  rw [h.typeName_eq]

theorem visible_eq (h : cat.Widens cat') (t : TypeId) (data : Entries Value) :
    cat'.visible t data = cat.visible t data := by
  rw [visible_eq_without, visible_eq_without, h.sideKey_eq]

theorem schemaOf_eq_nil_iff (h : cat.Widens cat') (t : TypeId) :
    cat'.schemaOf t = [] ↔ cat.schemaOf t = [] := by
  obtain ⟨fresh, -, hempty, hschema⟩ := h.schemaOf_eq t
  rw [hschema, List.append_eq_nil_iff]
  exact ⟨And.left, fun hnil => ⟨hnil, hempty hnil⟩⟩

/-- Fresh fields change nothing for the keys that were declared, and for the reserved one. -/
theorem find?_schemaOf_eq (h : cat.Widens cat') {k : Key}
    (hk : k.same (cat.sideKey t) = true ∨ (cat.schemaOf t).has k = true) :
    (cat'.schemaOf t).find? k = (cat.schemaOf t).find? k := by
  obtain ⟨fresh, hfresh, -, hschema⟩ := h.schemaOf_eq t
  rw [hschema, Entries.find?_append]
  cases hdeclared : (cat.schemaOf t).find? k with
  | some declared => rfl
  | none =>
    have hside := hk.resolve_right (by simp [Entries.has, hdeclared])
    cases hfind : fresh.find? k with
    | none => rfl
    | some declared =>
      obtain ⟨l, hmem, hl⟩ := Entries.exists_mem_of_find? hfind
      have hl_side := hfresh.unreserved l (List.mem_map_of_mem hmem)
      rw [Key.same_trans hl hside] at hl_side
      cases hl_side

theorem wrappingDescriptor?_eq (h : cat.Widens cat') {k : Key}
    (hk : cat.schemaOf t = [] ∨ k.same (cat.sideKey t) = true ∨ (cat.schemaOf t).has k = true) :
    cat'.wrappingDescriptor? t k = cat.wrappingDescriptor? t k := by
  have hfind : (cat'.schemaOf t).find? k = (cat.schemaOf t).find? k := by
    rcases hk with hempty | hk
    · rw [(h.schemaOf_eq_nil_iff t).mpr hempty, hempty]
    · exact h.find?_schemaOf_eq hk
  unfold wrappingDescriptor?
  rw [hfind]

/-! ### What strict mode admits -/

/-- What strict mode admits it goes on admitting: there is nothing in the fresh fields. -/
theorem admits (h : cat.Widens cat') {v : Validator} (hadmits : cat.Admits t v .strict candidate) :
    cat'.Admits t v .strict candidate := by
  rw [admits_iff] at hadmits ⊢
  refine hadmits.imp_right ?_
  rintro ⟨hnonempty, horder, hdeclared⟩
  obtain ⟨fresh, hfresh, -, hschema⟩ := h.schemaOf_eq t
  rw [h.known_eq, h.visible_eq, hschema]
  refine ⟨fun hnil => hnonempty (List.append_eq_nil_iff.mp hnil).1, fun f hf => ?_, fun _ e he => ?_⟩
  · rcases List.mem_append.mp hf with hold | hnew
    · exact horder f hold
    · obtain ⟨d, hd, hnullable⟩ := hfresh.nullable f hnew
      have habsent : (cat.visible t candidate).find? f.1 = none := by
        cases hfind : (cat.visible t candidate).find? f.1 with
        | none => rfl
        | some w =>
          obtain ⟨k, hmem, hk⟩ := Entries.exists_mem_of_find? hfind
          have hhas : (cat.schemaOf t).has k = true := hdeclared rfl _ hmem
          rw [Entries.has, Entries.find?_congr hk, ← Entries.has,
            hfresh.undeclared f.1 (List.mem_map_of_mem hnew)] at hhas
          cases hhas
      refine ⟨d, hd, ?_⟩
      rw [habsent]
      exact hnullable
  · have hhas := hdeclared rfl e he
    rw [Entries.has, Entries.find?_append]
    rw [Entries.has] at hhas
    simp [hhas]

end Widens

/-- The one record that is built by way of a candidate. -/
theorem BuiltOf.answer_construct {cat : Catalog} {t : TypeId} {mode : Mode} {setup : Setup}
    {es candidate : Entries Value} (h : cat.BuiltOf t mode setup es candidate) :
    (cat.construct t mode setup es).answer =
      .ok (.success, ⟨{ (cat.blank t mode setup).header with
          valid := true, lastVerdict := if cat.schemaOf t = [] then none else some .success },
        candidate⟩) := by
  refine answer_construct_eq_ok.mpr ⟨h.copyable, candidate, h.prepared, ?_⟩
  by_cases hschema : cat.schemaOf t = []
  · simp [judge, hschema, blank]
  · obtain ⟨verdict, hverdict, hvalid⟩ := h.admitted.resolve_left hschema
    obtain rfl : verdict = .success := by
      cases verdict
      rw [Verdict.valid_iff] at hvalid
      cases hvalid
      rfl
    rw [answer_judge hschema, hverdict]
    simp [hschema, Except.map, blank]

/-- What strict mode built, it goes on building of the same candidate. -/
theorem BuiltOf.widened {cat cat' : Catalog} (hwidens : cat.Widens cat') {t : TypeId} {setup : Setup}
    {es candidate : Entries Value} (h : cat.BuiltOf t .strict setup es candidate)
    (hprepared : (prepare cat' .strict setup.registry t es).answer = .ok candidate) :
    cat'.BuiltOf t .strict setup es candidate where
  copyable := h.copyable
  prepared := hprepared
  admitted := h.admitted.imp (hwidens.schemaOf_eq_nil_iff t).mpr hwidens.admits

/-- The two records are one. -/
theorem BuiltOf.construct_widened {cat cat' : Catalog} (hwidens : cat.Widens cat') {t : TypeId}
    {setup : Setup} {es candidate : Entries Value} (h : cat.BuiltOf t .strict setup es candidate)
    (hprepared : (prepare cat' .strict setup.registry t es).answer = .ok candidate) :
    (cat'.construct t .strict setup es).answer = (cat.construct t .strict setup es).answer := by
  rw [(h.widened hwidens hprepared).answer_construct, h.answer_construct, hwidens.blank_eq]
  simp only [hwidens.schemaOf_eq_nil_iff]

end Catalog

/-! ### Wrapping in the two catalogs -/

section Wrapping

variable (cat cat' : Catalog)

/-- Where strict mode leaves something that matches, a value is wrapped in both catalogs alike. -/
def WrapsAlike (registry : Option RegistryId) (fresh : Bool) (d : Descriptor) (v : Value) : Prop :=
  ∀ w, settled cat .strict registry fresh d v = .ok w →
    mismatch? (cat.known registry) d w = none →
      (wrap? cat' .strict registry fresh d v).answer = (wrap? cat .strict registry fresh d v).answer

/-- The same of some items. -/
def ItemsWrapAlike (registry : Option RegistryId) (fresh : Bool) (element : Descriptor)
    (items : List Value) : Prop :=
  ∀ ws, settledItems cat .strict registry fresh element items = .ok ws →
    (∀ w ∈ ws, mismatch? (cat.known registry) element w = none) →
      (wrapItems cat' .strict registry fresh element items).answer =
        (wrapItems cat .strict registry fresh element items).answer

/-- The same of the entries that a record is prepared of, if all of them are declared. -/
def EntriesPrepareAlike (t : TypeId) (es : List (Key × Value)) : Prop :=
  ∀ candidate, (prepare cat .strict (cat.registryOf t) t es).answer = .ok candidate →
    cat.FieldsMatch t candidate → cat.DeclaresKeys t es →
      (prepare cat' .strict (cat.registryOf t) t es).answer = .ok candidate

variable {cat cat'} {registry : Option RegistryId} {fresh : Bool}

/-- What is wrapped whatever the types are is wrapped alike. -/
theorem WrapsAlike.of_eq {d : Descriptor} {v : Value}
    (h : (wrap? cat' .strict registry fresh d v).answer =
      (wrap? cat .strict registry fresh d v).answer) :
    WrapsAlike cat cat' registry fresh d v := fun _ _ _ => h

/-- A list at a typed array is wrapped alike where its items are. -/
theorem wrapsAlike_list (hwidens : cat.Widens cat') {items : List Value} {element : Descriptor}
    (hitems : ItemsWrapAlike cat cat' registry fresh element items) (mark : Mark) (nullable : Bool) :
    WrapsAlike cat cat' registry fresh (.array element nullable) (.list mark items) := by
  have hsame := hwidens.wrapping?_eq registry (.array element nullable)
  rcases cat.wrapping?_array_cases registry element nullable with hnone | hfound
  · exact .of_eq (by rw [answer_wrap?_of_none hnone, answer_wrap?_of_none (hsame.trans hnone)])
  intro w hw hmatch
  obtain ⟨mark', -, hsettled⟩ :=
    @settled_list_array cat .strict registry fresh mark items element nullable
  obtain ⟨ws, hws, rfl⟩ := Act.map_eq_ok.mp (hsettled.symm.trans hw)
  have halike := hitems ws hws ((mismatch?_array_iff rfl ..).mp hmatch)
  simp only [wrap?, hsame, hfound, Act.answer_bind, halike]

/-- So is a tuple, whose items are never copied. -/
theorem wrapsAlike_tuple (hwidens : cat.Widens cat') {items : List Value} {element : Descriptor}
    (hitems : ItemsWrapAlike cat cat' registry false element items) (form : TupleForm) (mark : Mark)
    (nullable : Bool) :
    WrapsAlike cat cat' registry fresh (.array element nullable) (@Value.tuple form mark items) := by
  have hsame := hwidens.wrapping?_eq registry (.array element nullable)
  rcases cat.wrapping?_array_cases registry element nullable with hnone | hfound
  · exact .of_eq (by rw [answer_wrap?_of_none hnone, answer_wrap?_of_none (hsame.trans hnone)])
  intro w hw hmatch
  have helement : (cat.wrapping? registry element).isSome = true := by
    rw [Catalog.wrapping?_array] at hfound
    obtain ⟨wrapping, hwrapping, -⟩ := Option.map_eq_some_iff.mp hfound
    rw [hwrapping]
    rfl
  rw [settled_tuple_array, if_pos helement] at hw
  obtain ⟨ws, hws, rfl⟩ := Act.map_eq_ok.mp hw
  have halike := hitems ws hws ((mismatch?_array_iff rfl ..).mp hmatch)
  simp only [wrap?, hsame, hfound, Act.answer_bind, halike]

/-- So is a mapping at a name where what is prepared of it is: strict mode has seen that all of its keys
are declared. -/
theorem wrapsAlike_mapping (hwidens : cat.Widens cat') (hreserved : cat.RegistriesLeaveReserved)
    {v : Value} {entries : Entries Value} (h : v.entries? = some entries)
    (hdistinct : Entries.Distinct entries)
    (hprepare : ∀ t, EntriesPrepareAlike cat cat' t entries) (name : String) (nullable : Bool) :
    WrapsAlike cat cat' registry fresh (.named name nullable) v := by
  have hsame := hwidens.wrapping?_eq registry (.named name nullable)
  rcases cat.wrapping?_named_cases registry name nullable with hnone | ⟨factory, hfactory⟩
  · exact .of_eq (by rw [answer_wrap?_of_none hnone, answer_wrap?_of_none (hsame.trans hnone)])
  cases factory with
  | bound _ | echo =>
    apply WrapsAlike.of_eq
    cases v with
    | dict _ _ | view _ _ => simp only [wrap?, hsame, hfactory, Act.answer_pure]
    | _ => simp [Value.entries?] at h
  | type t =>
    intro w hw hmatch
    obtain ⟨header, candidate, -, -, hbuilt⟩ := builtOf_of_settled h hfactory hw hmatch
    have hsetup := cat.isOwnSetup_default t
    obtain ⟨r, -, hfind⟩ := ((refersTo_of_wrapping hfactory).2 t rfl).2
    have hprepared := hprepare t candidate hbuilt.prepared
      (hbuilt.fieldsMatch hsetup hdistinct (hreserved r name t hfind)) (hbuilt.declaresKeys hsetup)
    rw [answer_wrap?_build hfactory h, answer_wrap?_build (hsame.trans hfactory) h,
      hwidens.defaultSetup_eq, hbuilt.construct_widened hwidens hprepared]

theorem itemsWrapAlike_nil (element : Descriptor) :
    ItemsWrapAlike cat cat' registry fresh element [] := fun _ _ _ => rfl

theorem itemsWrapAlike_cons {element : Descriptor} {v : Value} {vs : List Value}
    (hv : WrapsAlike cat cat' registry fresh element v)
    (hvs : ItemsWrapAlike cat cat' registry fresh element vs) :
    ItemsWrapAlike cat cat' registry fresh element (v :: vs) := by
  intro ws hws hmatch
  obtain ⟨w, rest, hw, hrest, rfl⟩ := settledItems_cons_eq_ok.mp hws
  obtain ⟨hhead, htail⟩ := List.forall_mem_cons.mp hmatch
  rw [answer_wrapItems_cons, answer_wrapItems_cons, hv w hw hhead, hvs rest hrest htail]

theorem entriesPrepareAlike_nil (t : TypeId) : EntriesPrepareAlike cat cat' t [] :=
  fun _ hcandidate _ _ => hcandidate

theorem entriesPrepareAlike_cons (hwidens : cat.Widens cat') {t : TypeId} {k : Key} {v : Value}
    {es : List (Key × Value)}
    (hv : ∀ d, WrapsAlike cat cat' (cat.registryOf t) true d v)
    (hes : EntriesPrepareAlike cat cat' t es) :
    EntriesPrepareAlike cat cat' t ((k, v) :: es) := by
  intro candidate hcandidate hmatch hdeclares
  obtain ⟨w, rest, hw, hrest, rfl⟩ := answer_prepare_cons_eq_ok.mp hcandidate
  obtain ⟨hhead, htail⟩ := List.forall_mem_cons.mp hmatch
  have hdeclared := hdeclares.imp_right fun hall => hall k (List.mem_cons_self ..)
  have hdeclares_rest := hdeclares.imp_right fun hall l hl => hall l (List.mem_cons_of_mem _ hl)
  refine answer_prepare_cons_eq_ok.mpr ⟨w, rest, ?_, hes rest hrest htail hdeclares_rest, rfl⟩
  rcases settledField_eq_ok.mp hw with ⟨hd, rfl⟩ | ⟨d, hd, hsettled⟩
  · exact settledField_eq_ok.mpr (.inl ⟨by rw [hwidens.wrappingDescriptor?_eq hdeclared, hd], rfl⟩)
  · refine settledField_eq_ok.mpr (.inr ⟨d, by rw [hwidens.wrappingDescriptor?_eq hdeclared, hd], ?_⟩)
    rw [settled, hv d w hsettled (hhead d (wrappingDescriptor?_declared hd))]
    exact hsettled

mutual

/-- Where strict mode leaves something that matches, it does so by the same steps in a catalog that is
wider. -/
theorem wrapsAlike_of_widens (hwidens : cat.Widens cat') (hreserved : cat.RegistriesLeaveReserved)
    (registry : Option RegistryId) (fresh : Bool) :
    (d : Descriptor) → (v : Value) → v.Throughout Value.HasDistinctKeys →
      WrapsAlike cat cat' registry fresh d v
  | .named name nullable, .list _ _, _ | .named name nullable, .tuple _ _, _ =>
      .of_eq (by rw [answer_wrap?_items_named rfl, answer_wrap?_items_named rfl])
  | .array element nullable, .list mark items, hkeys =>
      wrapsAlike_list hwidens
        (itemsWrapAlike_of_widens hwidens hreserved registry fresh element items hkeys.2) mark nullable
  | .array element nullable, @Value.tuple form mark items, hkeys =>
      wrapsAlike_tuple hwidens
        (itemsWrapAlike_of_widens hwidens hreserved registry false element items hkeys.2)
        form mark nullable
  | .named name nullable, .dict _ entries, hkeys | .named name nullable, .view _ entries, hkeys =>
      wrapsAlike_mapping hwidens hreserved rfl hkeys.1
        (fun t => entriesPrepareAlike_of_widens hwidens hreserved t entries hkeys.2) name nullable
  | .array element nullable, .dict _ _, _ | .array element nullable, .view _ _, _ =>
      .of_eq (by rw [answer_wrap?_entries_array rfl, answer_wrap?_entries_array rfl])
  | d, .atom _ _, _ | d, .buffer _ _, _ | d, .set _, _ | d, .record _ _ _, _ =>
      .of_eq (by rw [answer_wrap?_of_solid rfl, answer_wrap?_of_solid rfl])
  | d, .reference _, _ => .of_eq (by simp only [wrap?, hwidens.wrapping?_eq])

theorem itemsWrapAlike_of_widens (hwidens : cat.Widens cat')
    (hreserved : cat.RegistriesLeaveReserved) (registry : Option RegistryId) (fresh : Bool)
    (element : Descriptor) :
    (items : List Value) → ThroughoutItems Value.HasDistinctKeys items →
      ItemsWrapAlike cat cat' registry fresh element items
  | [], _ => itemsWrapAlike_nil element
  | v :: vs, hkeys =>
      itemsWrapAlike_cons (wrapsAlike_of_widens hwidens hreserved registry fresh element v hkeys.1)
        (itemsWrapAlike_of_widens hwidens hreserved registry fresh element vs hkeys.2)

theorem entriesPrepareAlike_of_widens (hwidens : cat.Widens cat')
    (hreserved : cat.RegistriesLeaveReserved) (t : TypeId) :
    (es : List (Key × Value)) → ThroughoutEntries Value.HasDistinctKeys es →
      EntriesPrepareAlike cat cat' t es
  | [], _ => entriesPrepareAlike_nil t
  | (_, v) :: es, hkeys =>
      entriesPrepareAlike_cons hwidens
        (fun d => wrapsAlike_of_widens hwidens hreserved (cat.registryOf t) true d v hkeys.1)
        (entriesPrepareAlike_of_widens hwidens hreserved t es hkeys.2)

end

end Wrapping

/-! ### Records made before and after an extension -/

/-- The data that a record is made of is a mapping that came in, or nothing. -/
theorem distinct_initialEntries {data : Value} {es : Entries Value}
    (hkeys : data.Throughout Value.HasDistinctKeys) (h : initialEntries data = .ok es) :
    Entries.Distinct es ∧ ThroughoutEntries Value.HasDistinctKeys es := by
  refine ⟨?_, Record.throughout_initialEntries hkeys h⟩
  unfold initialEntries at h
  split at h
  · cases data with
    | dict _ entries | view _ entries =>
      cases h
      exact hkeys.1
    | _ => cases h
  · cases h
    exact .nil

namespace Catalog

variable {cat cat' : Catalog} {t u : TypeId} {data : Value} {sink : Sink} {fields : Schema}

/-- Data that strict mode accepts makes the same record in a catalog that is wider. -/
theorem Widens.make_strict (hwidens : cat.Widens cat') (hown : cat.LeavesReserved t)
    (hreserved : cat.RegistriesLeaveReserved) (hkeys : data.Throughout Value.HasDistinctKeys)
    {verdict : Verdict} {r : Record}
    (h : (Record.make cat t data .strict none none sink).answer = .ok (verdict, r))
    (hvalid : verdict.valid = true) :
    (Record.make cat' t data .strict none none sink).answer = .ok (verdict, r) := by
  have hsetup := cat.isOwnSetup_setupFor t sink
  rw [Record.make, Act.answer_bind, Act.answer_ofExcept] at h ⊢
  obtain ⟨es, hes, hbuild⟩ := Act.bind_eq_ok.mp h
  obtain ⟨hdistinct, hentries⟩ := distinct_initialEntries hkeys hes
  have hbuilt := builtOf_of_construct hbuild hvalid
  have hprepared := entriesPrepareAlike_of_widens hwidens hreserved t es hentries r.data
    hbuilt.prepared (hbuilt.fieldsMatch hsetup hdistinct hown) (hbuilt.declaresKeys hsetup)
  rw [hes, hwidens.setupFor_eq]
  exact (hbuilt.construct_widened hwidens hprepared).trans hbuild

/-- A type that has fields is widened by extending it by fresh ones. -/
theorem widens_extended (hu : u < cat.types.length)
    (hextensions : (cat.typeAt u).extensions.Distinct) (hnonempty : cat.schemaOf u ≠ [])
    (hdistinct : fields.Distinct) (hfresh : cat.FreshFields u fields) :
    cat.Widens (cat.extended u fields) := by
  have hkept {α : Type} (f : RecordType → α) (hf : ∀ type : RecordType,
      f { type with extensions := type.extensions.putAll fields } = f type) (t : TypeId) :
      f ((cat.extended u fields).typeAt t) = f (cat.typeAt t) := by
    rw [typeAt_extended hu]
    by_cases ht : t = u
    · rw [if_pos ht, ht]
      exact hf _
    · rw [if_neg ht]
  refine ⟨rfl, registryOf_congr fun t => ⟨hkept _ (fun _ => rfl) t, hkept _ (fun _ => rfl) t⟩,
    fun t => ?_, fun t => ?_, fun t => ?_⟩
  · simp only [typeName, hkept RecordType.className (fun _ => rfl) t,
      hkept RecordType.schemaName (fun _ => rfl) t]
  · simp only [sideKey, hkept RecordType.sideField (fun _ => rfl) t]
  · by_cases ht : t = u
    · subst ht
      refine ⟨fields, hfresh, fun hnil => absurd hnil hnonempty, ?_⟩
      rw [schemaOf_extended hu hextensions]
      exact Entries.putAll_of_distinct hdistinct fun f hf =>
        hfresh.undeclared f.1 (List.mem_map_of_mem hf)
    · refine ⟨[], ⟨by simp [Entries.keys], by simp [Entries.keys], by simp⟩, fun _ => rfl, ?_⟩
      rw [List.append_nil]
      unfold schemaOf
      rw [typeAt_extended hu, if_neg ht]

/-- Extending a type by fresh fields is possible, and whatever strict mode accepted before, at this type
or any other, makes the same record after it. -/
theorem make_after_extension (hu : u < cat.types.length)
    (hextendable : (cat.typeAt u).extendable = true) (hnonempty : cat.schemaOf u ≠ [])
    (hextensions : (cat.typeAt u).extensions.Distinct)
    (hdistinct : fields.Distinct) (htexts : ∀ k ∈ Entries.keys fields, k.IsText)
    (hfresh : cat.FreshFields u fields)
    (hown : cat.LeavesReserved t) (hreserved : cat.RegistriesLeaveReserved)
    (hkeys : data.Throughout Value.HasDistinctKeys) {verdict : Verdict} {r : Record}
    (h : (Record.make cat t data .strict none none sink).answer = .ok (verdict, r))
    (hvalid : verdict.valid = true) :
    ((extend u fields).run cat).result = .ok () ∧
      (Record.make ((extend u fields).run cat).state t data .strict none none sink).answer =
        .ok (verdict, r) := by
  obtain ⟨hstate, hresult⟩ := run_extend_of_extendable hextendable fields
  constructor
  · obtain ⟨words, hwords⟩ := exists_shownKeysSorted htexts
    rw [hresult, hwords]
    rfl
  · rw [hstate]
    exact (widens_extended hu hextensions hnonempty hdistinct hfresh).make_strict hown hreserved hkeys
      h hvalid

/-- A folder with a note about another folder. -/
def folderAboutFolder : Entries Value :=
  folderOf [(.str "text", .str "a"), (.str "about", .dict none (folderOf plainNote))]

/-- A field for the note that describes a folder. -/
def describedBy : Schema := [(.str "description", .str "Note?")]

theorem freshFields_describedBy : folders.FreshFields 1 describedBy where
  undeclared := by decide +kernel
  unreserved := by decide +kernel
  nullable := by
    intro f hf
    obtain rfl := List.mem_singleton.mp hf
    exact ⟨.named "Note" true, eq_ok_of_toOption (by decide +kernel), rfl⟩

/-- Folders are extended while there are folders inside folders. -/
theorem make_folder_after_extension : ∃ verdict r, verdict.valid = true ∧
    (Record.make folders 1 (.dict none folderAboutFolder) .strict none none .none).answer =
      .ok (verdict, r) ∧
    ((extend 1 describedBy).run folders).result = .ok () ∧
    (Record.make ((extend 1 describedBy).run folders).state 1 (.dict none folderAboutFolder) .strict
      none none .none).answer = .ok (verdict, r) := by
  have hpasses : Act.passes (fun out => out.1.valid) (Record.make folders 1
      (.dict none folderAboutFolder) .strict none none .none).answer = true := by decide +kernel
  obtain ⟨⟨verdict, r⟩, hmake, hvalid⟩ := Act.exists_of_passes hpasses
  have hextensions : (folders.typeAt 1).extensions.Distinct := .nil
  have hdistinct : describedBy.Distinct := List.pairwise_singleton ..
  have htexts : ∀ k ∈ Entries.keys describedBy, k.IsText := by
    intro k hk
    obtain rfl := List.mem_singleton.mp hk
    exact ⟨none, "description", rfl⟩
  have hown : folders.LeavesReserved 1 := by
    unfold LeavesReserved
    decide +kernel
  have hkeys : (Value.dict none folderAboutFolder).Throughout Value.HasDistinctKeys := by
    simp [folderAboutFolder, folderOf, plainNote, Value.Throughout, ThroughoutEntries, ThroughoutItems,
      Value.HasDistinctKeys, Entries.Distinct]
  obtain ⟨hextend, hmake'⟩ := make_after_extension (by decide) rfl (by decide +kernel) hextensions
    hdistinct htexts freshFields_describedBy hown registriesLeaveReserved_folders hkeys hmake hvalid
  exact ⟨verdict, r, hvalid, hmake, hextend, hmake'⟩

end Catalog

end TypedRecord
