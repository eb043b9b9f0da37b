import TypedRecord.Proofs.Reportable

/-!
# TypedRecord.Proofs.Acceptance

A record is built of exactly the data that conforms.

`settlesWell_iff_fits` is the induction: over values, their items and their entries, wrapping comes
to an end and leaves something that matches exactly where the value fits. At a mapping it goes through
`builds_iff`, which turns the admission of a candidate, a question for each field, into one for each
entry.
-/

namespace TypedRecord

section Building

variable {cat : Catalog} {r : RegistryId} {mode : Mode} {t : TypeId} {name : String}

namespace Catalog

/-- The values in a candidate match where they are declared, the reserved field apart. -/
def ValuesMatch (cat : Catalog) (r : RegistryId) (t : TypeId) (candidate : Entries Value) : Prop :=
  ∀ e ∈ candidate, e.1.same (cat.sideKey t) = false →
    ∀ d, cat.declared? t e.1 = some d → mismatch? (cat.known (some r)) d e.2 = none

/-- The candidate for a record can be made, and the values in it match. -/
def ValuesSettleWell (cat : Catalog) (r : RegistryId) (mode : Mode) (t : TypeId)
    (es : List (Key × Value)) : Prop :=
  ∃ candidate, (prepare cat mode (some r) t es).answer = .ok candidate ∧
    cat.ValuesMatch r t candidate

/-- A field is declared as its entry in the schema says. -/
theorem Registers.declared?_of_mem (ht : cat.Registers r name t) {f : Key × Value}
    (hf : f ∈ cat.schemaOf t) {key : Key} (hsame : f.1.same key = true) :
    cat.declared? t key = f.2.descriptor.toOption := by
  simp [declared?, ht.distinct.find?_of_mem hf hsame]

theorem eq_ok_of_toOption {ε α : Type} {e : Except ε α} {a : α} (h : e.toOption = some a) :
    e = .ok a := by
  cases e with
  | error m => cases h
  | ok b => exact congrArg _ (Option.some.inj h)

/-- A field that is declared has an entry in the schema. -/
theorem exists_mem_of_declared? {key : Key} {d : Descriptor} (h : cat.declared? t key = some d) :
    ∃ f ∈ cat.schemaOf t, f.1.same key = true ∧ f.2.descriptor = .ok d := by
  simp only [declared?, Option.bind_eq_some_iff] at h
  obtain ⟨declared, hfind, hd⟩ := h
  obtain ⟨k, hmem, hsame⟩ := Entries.exists_mem_of_find? hfind
  exact ⟨(k, declared), hmem, hsame, eq_ok_of_toOption hd⟩

/-- The fields of a type are in order where those that hold nothing are nullable and those that hold
something hold what matches. -/
theorem Registers.fieldsInOrder_iff (ht : cat.Registers r name t) {candidate : Entries Value}
    (hdistinct : Entries.Distinct candidate) :
    (∀ f ∈ cat.schemaOf t,
        FieldInOrder (cat.known (some r)) (cat.visible t candidate) f.1 f.2) ↔
      (∀ f ∈ cat.schemaOf t, ∃ d, f.2.descriptor = .ok d ∧
        (f.1.same (cat.sideKey t) = true ∨ candidate.has f.1 = false → d.nullable = true)) ∧
      cat.ValuesMatch r t candidate := by
  -- Validation goes through the fields and looks for entries; the right-hand side goes through the
  -- entries and looks for fields. With one entry a key, and one field a key, it is the same pairs.
  constructor
  · intro h
    refine ⟨fun f hf => ?_, fun e he hside d hd => ?_⟩
    · obtain ⟨d, hd, hfield⟩ := h f hf
      refine ⟨d, hd, fun hopen => ?_⟩
      have hnone : (cat.visible t candidate).find? f.1 = none := by
        rw [find?_visible]
        rcases hopen with hside | habsent
        · rw [if_pos hside]
        · simpa [Entries.has] using fun _ => habsent
      simpa [hnone] using hfield
    · obtain ⟨f, hf, hsame, hdescriptor⟩ := exists_mem_of_declared? hd
      obtain ⟨d', hd', hfield⟩ := h f hf
      obtain rfl : d' = d := by rw [hdescriptor] at hd'; exact (Except.ok.inj hd').symm
      have hside' : f.1.same (cat.sideKey t) = false := by
        rw [Key.same_congr hsame]
        exact hside
      rw [Key.same_comm] at hsame
      rw [find?_visible, if_neg (by simp [hside']),
        hdistinct.find?_of_mem (Prod.eta e ▸ he) hsame] at hfield
      exact hfield
  · rintro ⟨hdeclared, hvalues⟩ f hf
    obtain ⟨d, hd, hopen⟩ := hdeclared f hf
    refine ⟨d, hd, ?_⟩
    rw [find?_visible]
    by_cases hside : f.1.same (cat.sideKey t) = true
    · rw [if_pos hside]
      exact hopen (.inl hside)
    · rw [if_neg hside]
      cases hfind : candidate.find? f.1 with
      | none => exact hopen (.inr (by simp [Entries.has, hfind]))
      | some v =>
          obtain ⟨k, hmem, hsame⟩ := Entries.exists_mem_of_find? hfind
          refine hvalues _ hmem ?_ d ?_
          · rw [Key.same_congr hsame]
            simpa using hside
          · rw [Key.same_comm] at hsame
            rw [ht.declared?_of_mem hf hsame, hd]
            rfl

/-- Where nothing is declared, nothing is wrapped. -/
theorem exists_prepare_of_no_fields (h : cat.schemaOf t = []) (registry : Option RegistryId)
    (es : List (Key × Value)) :
    ∃ candidate, (prepare cat mode registry t es).answer = .ok candidate := by
  induction es with
  | nil => exact ⟨[], rfl⟩
  | cons e es ih =>
      obtain ⟨k, v⟩ := e
      obtain ⟨rest, hrest⟩ := ih
      have hfield : settledField cat mode registry t k v = .ok v.copy := by
        simp [settledField, wrappingDescriptor?, h]
      exact ⟨(k, v.copy) :: rest, answer_prepare_cons_eq_ok.mpr ⟨_, rest, hfield, hrest, rfl⟩⟩

/-- Whether a record is built, given when the values in the data fit. -/
theorem Registers.builds_iff (ht : cat.Registers r name t) {setup : Setup}
    (hsetup : setup.registry = some r) (hvalidator : setup.validator.registry = some r)
    (henabled : setup.validator.enabled = true) {es : Entries Value}
    (hdistinct : Entries.Distinct es) (hplain : ArePlainEntries es) {fit : Prop}
    (hfit : cat.ValuesSettleWell r mode t es ↔ fit) :
    cat.Builds t mode setup es ↔ cat.ConformsWhere mode t es fit := by
  have hbuilds : cat.Builds t mode setup es ↔
      ∃ candidate, (prepare cat mode (some r) t es).answer = .ok candidate ∧
        (cat.schemaOf t = [] ∨ cat.Admits t setup.validator mode candidate) := by
    simp only [Builds, answer_construct_of_whole (hplain.areWhole es), hsetup, ← judge_valid_iff]
    constructor
    · rintro ⟨verdict, built, h, hvalid⟩
      obtain ⟨candidate, hcandidate, h⟩ := Act.bind_eq_ok.mp h
      exact ⟨candidate, hcandidate, verdict, built, h, hvalid⟩
    · rintro ⟨candidate, hcandidate, verdict, built, h, hvalid⟩
      refine ⟨verdict, built, ?_, hvalid⟩
      rw [hcandidate]
      exact h
  rw [hbuilds, ConformsWhere]
  by_cases hschema : cat.schemaOf t = []
  · obtain ⟨candidate, hcandidate⟩ :=
      @exists_prepare_of_no_fields cat mode t hschema (some r) es
    exact iff_of_true ⟨candidate, hcandidate, .inl hschema⟩ (.inl hschema)
  · -- Judging by the candidate or by the data is the same where only keys count.
    have hadmits {candidate : Entries Value}
        (hcandidate : (prepare cat mode (some r) t es).answer = .ok candidate) :
        cat.Admits t setup.validator mode candidate ↔
          (∀ f ∈ cat.schemaOf t, ∃ d, f.2.descriptor = .ok d ∧
            (f.1.same (cat.sideKey t) = true ∨ es.has f.1 = false → d.nullable = true)) ∧
          cat.ValuesMatch r t candidate ∧
          (mode = .strict →
            ∀ e ∈ es, e.1.same (cat.sideKey t) = true ∨ (cat.schemaOf t).has e.1 = true) := by
      have hkeys := keys_of_answer_prepare hcandidate
      rw [admits_iff, hvalidator, ht.fieldsInOrder_iff (hdistinct.of_keys_eq hkeys.symm),
        cat.visible_declared_iff t candidate, hkeys]
      simp [henabled, hschema, Entries.has_of_keys_eq hkeys, and_assoc, Entries.keys]
    simp only [hschema, false_or]
    constructor
    · rintro ⟨candidate, hcandidate, h⟩
      obtain ⟨hdeclared, hvalues, hstrict⟩ := (hadmits hcandidate).mp h
      exact ⟨hdeclared, hfit.mp ⟨candidate, hcandidate, hvalues⟩, hstrict⟩
    · rintro ⟨hdeclared, hholds, hstrict⟩
      obtain ⟨candidate, hcandidate, hvalues⟩ := hfit.mpr hholds
      exact ⟨candidate, hcandidate, (hadmits hcandidate).mpr ⟨hdeclared, hvalues, hstrict⟩⟩

theorem Registers.defaultSetup_eq (ht : cat.Registers r name t) :
    cat.defaultSetup t =
      ⟨some r, { registry := some r, sink := .logging }, .logging⟩ := by
  simp [defaultSetup, ht.registryOf_eq]

end Catalog

/-! ### The induction -/

/-- Wrapping items comes to an end, and what is left in their places matches. -/
def ItemsSettleWell (cat : Catalog) (r : RegistryId) (mode : Mode) (fresh : Bool)
    (element : Descriptor) (items : List Value) : Prop :=
  ∃ ws, settledItems cat mode (some r) fresh element items = .ok ws ∧
    ∀ w ∈ ws, mismatch? (cat.known (some r)) element w = none

/-- A sequence settles well at a typed array where its items do at the element. -/
theorem settlesWell_items_array {v : Value} {items : List Value} (h : v.items? = some items)
    {fresh : Bool} {element : Descriptor} {fit : Prop}
    (hitems : ∀ fresh', ItemsSettleWell cat r mode fresh' element items ↔ fit) (nullable : Bool) :
    SettlesWell cat r mode fresh (.array element nullable) v ↔ fit := by
  obtain ⟨fresh', make, hsettled, hmake⟩ :=
    @settled_of_items cat mode (some r) fresh v items h element nullable
  rw [← hitems fresh', SettlesWell, ItemsSettleWell, hsettled]
  cases settledItems cat mode (some r) fresh' element items with
  | error failure => simp [Except.map]
  | ok ws => simp [Except.map, mismatch?_array_iff (hmake ws)]

theorem itemsSettleWell_cons {fresh : Bool} {element : Descriptor} {v : Value} {vs : List Value} :
    ItemsSettleWell cat r mode fresh element (v :: vs) ↔
      SettlesWell cat r mode fresh element v ∧ ItemsSettleWell cat r mode fresh element vs := by
  constructor
  · rintro ⟨ws, hws, hmatches⟩
    obtain ⟨w, rest, hw, hrest, rfl⟩ := settledItems_cons_eq_ok.mp hws
    obtain ⟨hhead, htail⟩ := List.forall_mem_cons.mp hmatches
    exact ⟨⟨w, hw, hhead⟩, rest, hrest, htail⟩
  · rintro ⟨⟨w, hw, hhead⟩, rest, hrest, htail⟩
    exact ⟨w :: rest, settledItems_cons_eq_ok.mpr ⟨w, rest, hw, hrest, rfl⟩,
      List.forall_mem_cons.mpr ⟨hhead, htail⟩⟩

/-- The values of a candidate match field by field. The value of the reserved field only has to come
to an end. -/
theorem Catalog.valuesSettleWell_cons (ht : cat.Registers r name t) {k : Key} {v : Value}
    {es : List (Key × Value)} :
    cat.ValuesSettleWell r mode t ((k, v) :: es) ↔
      (if k.same (cat.sideKey t) then cat.SideWraps r mode t v
        else ∀ d, cat.declared? t k = some d → SettlesWell cat r mode true d v) ∧
      cat.ValuesSettleWell r mode t es := by
  have hfield : (∃ w, settledField cat mode (some r) t k v = .ok w ∧
      (k.same (cat.sideKey t) = false → ∀ d, cat.declared? t k = some d →
        mismatch? (cat.known (some r)) d w = none)) ↔
      if k.same (cat.sideKey t) then cat.SideWraps r mode t v
        else ∀ d, cat.declared? t k = some d → SettlesWell cat r mode true d v := by
    by_cases hside : k.same (cat.sideKey t) = true
    · rw [if_pos hside, SideWraps, settledField_congr hside]
      simp [hside]
    · rw [if_neg hside]
      simp only [settledField, ht.wrappingDescriptor?_eq, Bool.eq_false_iff.mpr hside,
        true_implies]
      cases cat.declared? t k <;> simp [SettlesWell]
  rw [← hfield]
  constructor
  · rintro ⟨candidate, hcandidate, hvalues⟩
    obtain ⟨w, rest, hw, hrest, rfl⟩ := answer_prepare_cons_eq_ok.mp hcandidate
    obtain ⟨hhead, htail⟩ := List.forall_mem_cons.mp hvalues
    exact ⟨⟨w, hw, hhead⟩, rest, hrest, htail⟩
  · rintro ⟨⟨w, hw, hhead⟩, rest, hrest, htail⟩
    exact ⟨(k, w) :: rest, answer_prepare_cons_eq_ok.mpr ⟨w, rest, hw, hrest, rfl⟩,
      List.forall_mem_cons.mpr ⟨hhead, htail⟩⟩

/-- A mapping settles well at a name that it fits, given when its values fit in the fields of a type. -/
theorem settlesWell_mapping (hr : cat.SelfContained r) {v : Value} {entries : Entries Value}
    (h : v.entries? = some entries) (hdistinct : Entries.Distinct entries)
    (hplain : ArePlainEntries entries) {fit : TypeId → Prop}
    (hfit : ∀ {t}, cat.Registers r name t → (cat.ValuesSettleWell r mode t entries ↔ fit t))
    (fresh nullable : Bool) :
    SettlesWell cat r mode fresh (.named name nullable) v ↔
      Descriptor.categoryOfName name = .map ∨
        Descriptor.categoryOfName name = .reference ∧
          ∃ t, (cat.registryAt r).find? name = some (.type t) ∧
            cat.ConformsWhere mode t entries (fit t) := by
  rw [settlesWell_entries_named hr h]
  refine or_congr .rfl (and_congr .rfl (exists_congr fun t => and_congr_right fun hfind => ?_))
  have ht := hr.registers hfind
  rw [ht.defaultSetup_eq]
  exact ht.builds_iff rfl rfl rfl hdistinct hplain (hfit ht)

mutual

/-- A plain value settles well exactly where it fits. The induction is on the value, so that types may
refer to each other in circles. -/
theorem settlesWell_iff_fits (hr : cat.SelfContained r) (fresh : Bool) :
    (d : Descriptor) → (v : Value) → v.IsPlain →
      (SettlesWell cat r mode fresh d v ↔ Fits cat r mode (cat.SideWraps r mode) d v)
  | .named name nullable, .list _ items, _ => by
      rw [settlesWell_items_named rfl, Fits]
  | .array element nullable, .list _ items, hplain => by
      rw [settlesWell_items_array rfl
        (fun fresh' => itemsSettleWell_iff_fit hr fresh' element items hplain), Fits]
  | .named name nullable, .tuple _ items, _ => by
      rw [settlesWell_items_named rfl, Fits]
  | .array element nullable, .tuple _ items, hplain => by
      rw [settlesWell_items_array rfl
        (fun fresh' => itemsSettleWell_iff_fit hr fresh' element items hplain), Fits]
  | .named name nullable, .dict _ entries, hplain => by
      rw [settlesWell_mapping hr rfl hplain.1 hplain.2
        (fun ht => Catalog.valuesSettleWell_iff_fit hr ht entries hplain.2), Fits]
  | .array element nullable, .dict _ entries, _ => by
      simpa [Fits] using not_settlesWell_entries_array rfl element nullable
  | .named name nullable, .view _ entries, hplain => by
      rw [settlesWell_mapping hr rfl hplain.1 hplain.2
        (fun ht => Catalog.valuesSettleWell_iff_fit hr ht entries hplain.2), Fits]
  | .array element nullable, .view _ entries, _ => by
      simpa [Fits] using not_settlesWell_entries_array rfl element nullable
  | d, .atom mark a, hplain => settlesWell_solid rfl hplain d
  | d, .buffer mark data, hplain => settlesWell_solid rfl hplain d
  | d, .set items, hplain => settlesWell_solid rfl hplain d
  | _, .record _ _ _, hplain => hplain.elim
  | _, .reference _, hplain => hplain.elim

theorem itemsSettleWell_iff_fit (hr : cat.SelfContained r) (fresh : Bool) (element : Descriptor) :
    (items : List Value) → ArePlain items →
      (ItemsSettleWell cat r mode fresh element items ↔
        FitItems cat r mode (cat.SideWraps r mode) element items)
  | [], _ => by
      simp [ItemsSettleWell, settledItems, FitItems, pure, Except.pure]
  | v :: vs, hplain => by
      rw [itemsSettleWell_cons, FitItems, settlesWell_iff_fits hr fresh element v hplain.1,
        itemsSettleWell_iff_fit hr fresh element vs hplain.2]

theorem Catalog.valuesSettleWell_iff_fit (hr : cat.SelfContained r) {name : String} {t : TypeId}
    (ht : cat.Registers r name t) :
    (es : List (Key × Value)) → ArePlainEntries es →
      (cat.ValuesSettleWell r mode t es ↔ FieldsFit cat r mode (cat.SideWraps r mode) t es)
  | [], _ => by
      simp [Catalog.ValuesSettleWell, prepare, Catalog.ValuesMatch, FieldsFit]
  | (k, v) :: es, hplain => by
      rw [Catalog.valuesSettleWell_cons ht, FieldsFit,
        Catalog.valuesSettleWell_iff_fit hr ht es hplain.2]
      simp only [fun d => settlesWell_iff_fits hr true d v hplain.1]

end

/-! ### What is asked of reserved fields -/

theorem Catalog.conformsWhere_congr {entries : Entries Value} {fit fit' : Prop}
    (h : fit ↔ fit') :
    cat.ConformsWhere mode t entries fit ↔ cat.ConformsWhere mode t entries fit' := by
  simp only [ConformsWhere, h]

/-- Where a sequence at a typed array comes to an end, its items do. -/
theorem exists_settledItems {v : Value} {items : List Value} (h : v.items? = some items)
    {fresh nullable : Bool} {element : Descriptor}
    (hends : ∃ w, settled cat mode (some r) fresh (.array element nullable) v = .ok w) :
    ∃ fresh' ws, settledItems cat mode (some r) fresh' element items = .ok ws := by
  obtain ⟨w, hw⟩ := hends
  obtain ⟨fresh', make, hsettled, _⟩ :=
    @settled_of_items cat mode (some r) fresh v items h element nullable
  rw [hsettled] at hw
  cases hws : settledItems cat mode (some r) fresh' element items with
  | error failure => rw [hws] at hw; cases hw
  | ok ws => exact ⟨fresh', ws, hws⟩

/-- Where a mapping at the name of a type comes to an end, the candidate for a record of it can be
made. -/
theorem Catalog.exists_prepare_of_settled (ht : cat.Registers r name t)
    (hfind : (cat.registryAt r).find? name = some (.type t))
    (href : Descriptor.categoryOfName name = .reference) {v : Value} {entries : Entries Value}
    (h : v.entries? = some entries) {fresh nullable : Bool}
    (hends : ∃ w, settled cat mode (some r) fresh (.named name nullable) v = .ok w) :
    ∃ candidate, (prepare cat mode (some r) t entries).answer = .ok candidate := by
  obtain ⟨w, hw⟩ := hends
  have hwrapping : cat.wrapping? (some r) (.named name nullable) =
      some (.build name (.type t)) := by
    simp [wrapping?_named, href, hfind]
  simp only [settled, @answer_wrap?_build cat mode (some r) fresh _ _ _ _ _ hwrapping h] at hw
  cases hout : (cat.construct t mode (cat.defaultSetup t) entries).answer with
  | error failure => rw [hout] at hw; cases hw
  | ok out =>
      obtain ⟨candidate, hcandidate, _⟩ := Catalog.judged_of_construct hout
      rw [ht.defaultSetup_eq] at hcandidate
      exact ⟨candidate, hcandidate⟩

mutual

/-- Where wrapping comes to an end, it came to an end in all reserved fields, so nothing is left to ask
of them. -/
theorem fits_anySide_iff (hr : cat.SelfContained r) (fresh : Bool) :
    (d : Descriptor) → (v : Value) → v.IsPlain →
      (∃ w, settled cat mode (some r) fresh d v = .ok w) →
      (Fits cat r mode (cat.SideWraps r mode) d v ↔ Fits cat r mode anySide d v)
  | .named name nullable, .list _ _, _, _ | .named name nullable, .tuple _ _, _, _
  | .array element nullable, .dict _ _, _, _ | .array element nullable, .view _ _, _, _ => by
      simp only [Fits]
  | .array element nullable, .list _ items, hplain, hends
  | .array element nullable, .tuple _ items, hplain, hends => by
      obtain ⟨fresh', hitems⟩ := exists_settledItems rfl hends
      simp only [Fits]
      exact fitItems_anySide_iff hr fresh' element items hplain hitems
  | .named name nullable, .dict _ entries, hplain, hends
  | .named name nullable, .view _ entries, hplain, hends => by
      simp only [Fits]
      refine or_congr .rfl (and_congr_right fun href => exists_congr fun t =>
        and_congr_right fun hfind => Catalog.conformsWhere_congr ?_)
      have ht := hr.registers hfind
      exact Catalog.fieldsFit_anySide_iff hr ht entries hplain.2
        (Catalog.exists_prepare_of_settled ht hfind href rfl hends)
  | d, .atom _ a, _, _ => by
      cases a <;> cases d <;> simp only [Fits]
  | d, .buffer _ _, _, _ | d, .set _, _, _ => by
      cases d <;> simp only [Fits]
  | _, .record _ _ _, hplain, _ | _, .reference _, hplain, _ => hplain.elim

theorem fitItems_anySide_iff (hr : cat.SelfContained r) (fresh : Bool) (element : Descriptor) :
    (items : List Value) → ArePlain items →
      (∃ ws, settledItems cat mode (some r) fresh element items = .ok ws) →
      (FitItems cat r mode (cat.SideWraps r mode) element items ↔
        FitItems cat r mode anySide element items)
  | [], _, _ => by
      simp only [FitItems]
  | v :: vs, hplain, hends => by
      obtain ⟨_, hends⟩ := hends
      obtain ⟨w, ws, hw, hws, _⟩ := settledItems_cons_eq_ok.mp hends
      rw [FitItems, FitItems, fits_anySide_iff hr fresh element v hplain.1 ⟨w, hw⟩,
        fitItems_anySide_iff hr fresh element vs hplain.2 ⟨ws, hws⟩]

theorem Catalog.fieldsFit_anySide_iff (hr : cat.SelfContained r) {name : String} {t : TypeId}
    (ht : cat.Registers r name t) :
    (es : List (Key × Value)) → ArePlainEntries es →
      (∃ candidate, (prepare cat mode (some r) t es).answer = .ok candidate) →
      (FieldsFit cat r mode (cat.SideWraps r mode) t es ↔ FieldsFit cat r mode anySide t es)
  | [], _, _ => by
      simp only [FieldsFit]
  | (k, v) :: es, hplain, hends => by
      obtain ⟨candidate, hcandidate⟩ := hends
      obtain ⟨w, rest, hw, hrest, _⟩ := answer_prepare_cons_eq_ok.mp hcandidate
      rw [FieldsFit, FieldsFit, Catalog.fieldsFit_anySide_iff hr ht es hplain.2 ⟨rest, hrest⟩]
      refine and_congr ?_ .rfl
      by_cases hside : k.same (cat.sideKey t) = true
      · -- The candidate was made, so the reserved field was wrapped.
        rw [if_pos hside, if_pos hside]
        exact iff_of_true ⟨w, (Catalog.settledField_congr hside v).symm.trans hw⟩ trivial
      · rw [if_neg hside, if_neg hside]
        refine forall_congr' fun d => imp_congr_right fun hd => ?_
        refine fits_anySide_iff hr true d v hplain.1 ⟨w, ?_⟩
        rw [settledField, ht.wrappingDescriptor?_eq, hd] at hw
        exact hw

end

end Building

/-! ### Records made of data -/

namespace Catalog

variable {cat : Catalog} {r : RegistryId} {mode : Mode} {t : TypeId} {name : String}
  {sink : Sink} {data : Value} {es : Entries Value}

/-- Making a record of some data, with nothing but a mode given, comes to an end. -/
def Answers (cat : Catalog) (t : TypeId) (mode : Mode) (sink : Sink) (data : Value) : Prop :=
  ∃ out, (Record.make cat t data mode none none sink).answer = .ok out

/-- A valid record is made of some data, with nothing but a mode given. -/
def Accepts (cat : Catalog) (t : TypeId) (mode : Mode) (sink : Sink) (data : Value) : Prop :=
  ∃ verdict built, (Record.make cat t data mode none none sink).answer = .ok (verdict, built) ∧
    verdict.valid = true

/-- A mapping is taken as the data that it is, also when it is empty and counts as false. -/
theorem initialEntries_of_entries (h : data.entries? = some es) :
    initialEntries data = .ok es := by
  unfold initialEntries
  cases data with
  | dict _ entries | view _ entries =>
      obtain rfl := Option.some.inj h
      cases entries <;> simp [Value.truthy, Value.entries?]
  | _ => simp [Value.entries?] at h

theorem answer_make {validator : Option Validator} {registry : Option RegistryId}
    (h : data.entries? = some es) :
    (Record.make cat t data mode validator registry sink).answer =
      (cat.construct t mode (cat.setupFor t validator registry sink) es).answer := by
  rw [Record.make, Act.answer_bind, Act.answer_ofExcept, initialEntries_of_entries h]
  rfl

/-- Records for which only a mode is given use the registry of their type, and a validator that is
bound to it and looks at everything. -/
theorem Registers.setupFor_registry (ht : cat.Registers r name t) (sink : Sink) :
    (cat.setupFor t none none sink).registry = some r ∧
      (cat.setupFor t none none sink).validator.registry = some r ∧
      (cat.setupFor t none none sink).validator.enabled = true := by
  simp [setupFor, ht.registryOf_eq]

theorem plain_of_entries (h : data.entries? = some es) (hplain : data.IsPlain) :
    Entries.Distinct es ∧ ArePlainEntries es := by
  cases data with
  | dict _ _ | view _ _ =>
      obtain rfl := Option.some.inj h
      exact hplain
  | _ => simp [Value.entries?] at h

/-- The record is valid where the data conforms, given what has to be asked of reserved fields. -/
theorem Registers.accepts_iff (hr : cat.SelfContained r) (ht : cat.Registers r name t)
    (hdata : data.entries? = some es) (hplain : data.IsPlain) :
    cat.Accepts t mode sink data ↔ cat.Conforms r mode (cat.SideWraps r mode) t es := by
  obtain ⟨hdistinct, hentries⟩ := plain_of_entries hdata hplain
  obtain ⟨hregistry, hvalidator, henabled⟩ := ht.setupFor_registry sink
  rw [Accepts, answer_make hdata]
  exact ht.builds_iff hregistry hvalidator henabled hdistinct hentries
    (valuesSettleWell_iff_fit hr ht es hentries)

/-- Where there is an answer, the candidate was made. -/
theorem Registers.exists_prepare_of_answers (ht : cat.Registers r name t)
    (hdata : data.entries? = some es) (h : cat.Answers t mode sink data) :
    ∃ candidate, (prepare cat mode (some r) t es).answer = .ok candidate := by
  obtain ⟨⟨verdict, built⟩, hout⟩ := h
  rw [answer_make hdata] at hout
  obtain ⟨candidate, hcandidate, _⟩ := judged_of_construct hout
  rw [(ht.setupFor_registry sink).1] at hcandidate
  exact ⟨candidate, hcandidate⟩

/-- There is an answer for all data that can be reported on. -/
theorem Registers.answers_of_reportable (hr : cat.SelfContained r) (ht : cat.Registers r name t)
    (hdata : data.entries? = some es) (hplain : data.IsPlain) (hreportable : data.IsReportable) :
    cat.Answers t mode sink data := by
  have hentries := (plain_of_entries hdata hplain).2.areWhole es
  have hall : AreReportableEntries es := by
    cases data with
    | dict _ _ | view _ _ =>
        obtain rfl := Option.some.inj hdata
        exact hreportable
    | _ => simp [Value.entries?] at hdata
  obtain ⟨candidate, hcandidate, hcan⟩ := @prepares_of_reportable cat r mode hr name t ht es hentries hall
  obtain ⟨out, hout⟩ := exists_judge ht.fields ht.declared_isWritable mode
    (cat.setupFor t none none sink) hcan
  refine ⟨out, ?_⟩
  rw [answer_make hdata]
  rw [answer_construct_of_whole hentries, (ht.setupFor_registry sink).1, hcandidate]
  exact hout

/-- The reserved fields do not count where there is an answer. -/
theorem Registers.conforms_anySide_iff (hr : cat.SelfContained r) (ht : cat.Registers r name t)
    (hdata : data.entries? = some es) (hplain : data.IsPlain)
    (hanswers : cat.Answers t mode sink data) :
    cat.Conforms r mode (cat.SideWraps r mode) t es ↔ cat.Conforms r mode anySide t es :=
  conformsWhere_congr (fieldsFit_anySide_iff hr ht es (plain_of_entries hdata hplain).2
    (ht.exists_prepare_of_answers hdata hanswers))

/-- A record of a registered type is made of plain data exactly where the data conforms and making it
comes to an end, which it does where wrapping does in all reserved fields that are reached, and always
where keys are texts and numbers can be written. -/
theorem accepts_iff_conforms (hr : cat.SelfContained r)
    (hfind : (cat.registryAt r).find? name = some (.type t)) (hdata : data.entries? = some es)
    (hplain : data.IsPlain) :
    (cat.Accepts t mode sink data ↔
      cat.Conforms r mode anySide t es ∧ cat.Answers t mode sink data) ∧
    (cat.Accepts t mode sink data ↔ cat.Conforms r mode (cat.SideWraps r mode) t es) ∧
    (data.IsReportable →
      (cat.Accepts t mode sink data ↔ cat.Conforms r mode anySide t es)) := by
  have ht := hr.registers hfind
  have haccepts : cat.Accepts t mode sink data ↔
      cat.Conforms r mode (cat.SideWraps r mode) t es := ht.accepts_iff hr hdata hplain
  refine ⟨?_, haccepts, fun hreportable => ?_⟩
  · constructor
    · intro h
      have hanswers : cat.Answers t mode sink data := by
        obtain ⟨verdict, built, hout, _⟩ := h
        exact ⟨_, hout⟩
      exact ⟨(ht.conforms_anySide_iff hr hdata hplain hanswers).mp (haccepts.mp h), hanswers⟩
    · rintro ⟨hconforms, hanswers⟩
      exact haccepts.mpr ((ht.conforms_anySide_iff hr hdata hplain hanswers).mpr hconforms)
  · have hanswers : cat.Answers t mode sink data :=
      ht.answers_of_reportable hr hdata hplain hreportable
    rw [haccepts]
    exact ht.conforms_anySide_iff hr hdata hplain hanswers

/-! ### Topics and notes -/

/-- Two types that refer to each other. A topic declares its reserved field, and keeps a note there. -/
def topicsAndNotes : Catalog where
  types := [.root,
    { className := "Topic", schemaName := "Topic", registry := some 0,
      baseSchema := [(.str "_mod_data", .str "Note?")] },
    { className := "Note", schemaName := "Note", registry := some 0,
      baseSchema := [(.str "text", .str "String"), (.str "about", .str "Topic?")] }]
  registries := [[("Topic", .type 1), ("Note", .type 2)]]

theorem topicsAndNotes_selfContained : topicsAndNotes.SelfContained 0 := by
  intro name factory h
  by_cases htopic : "Topic" = name
  · subst htopic
    cases h
    refine ⟨1, rfl, rfl, by simp [registryOf, typeAt, topicsAndNotes], ?_, ?_, ?_⟩
    all_goals simp [schemaOf, RecordType.effectiveSchema, typeAt, topicsAndNotes,
      Entries.Distinct, Key.IsText]
  · by_cases hnote : "Note" = name
    · subst hnote
      cases h
      refine ⟨2, rfl, rfl, by simp [registryOf, typeAt, topicsAndNotes], ?_, ?_, ?_⟩
      all_goals simp [schemaOf, RecordType.effectiveSchema, typeAt, topicsAndNotes,
        Entries.Distinct, Key.IsText]
    · simp [registryAt, topicsAndNotes, Registry.find?, htopic, hnote] at h

/-- The data of a topic with a note of some text. -/
def topicEntries (text : Value) : Entries Value :=
  [(.str "_mod_data", .dict none [(.str "text", text)])]

theorem isPlain_topicEntries {text : Value} (h : text.IsPlain) :
    (Value.dict none (topicEntries text)).IsPlain := by
  simp [topicEntries, Value.IsPlain, ArePlainEntries, Entries.Distinct, h]

/-- Whatever the text of the note is, the data of the topic conforms. -/
theorem conforms_topicEntries (mode : Mode) (text : Value) :
    topicsAndNotes.Conforms 0 mode anySide 1 (topicEntries text) := by
  refine .inr ⟨?_, ?_, ?_⟩
  · intro f hf
    obtain rfl : f = (.str "_mod_data", .str "Note?") := List.mem_singleton.mp hf
    exact ⟨.named "Note" true, eq_ok_of_toOption (by decide +kernel), fun _ => rfl⟩
  · simp [FieldsFit, topicEntries, sideKey, typeAt, topicsAndNotes, anySide]
  · simp [topicEntries, sideKey, typeAt, topicsAndNotes]

/-- A topic with a note that its type rejects is a topic all the same. -/
theorem accepts_topic_of_rejected_note :
    topicsAndNotes.Accepts 1 .strict .none (.dict none (topicEntries (.bool true))) := by
  have hplain : (Value.dict none (topicEntries (.bool true))).IsPlain :=
    isPlain_topicEntries (by simp [Value.IsPlain, Value.schema?])
  have hreportable : (Value.dict none (topicEntries (.bool true))).IsReportable := by
    simp only [topicEntries, Value.IsReportable, AreReportableEntries]
    exact ⟨⟨none, _, rfl⟩, ⟨⟨none, _, rfl⟩, rfl, trivial⟩, trivial⟩
  have haccepts := (@accepts_iff_conforms topicsAndNotes 0 .strict 1 "Topic" .none
    _ _ topicsAndNotes_selfContained rfl rfl hplain).2.2 hreportable
  exact haccepts.mpr (conforms_topicEntries .strict (.bool true))

/-- A number of one digit more than can be written. -/
def unwritableNumber : Value := .int (.ofNat (Nat.pow 10 digitLimit))

/-- No topic is made where the text of its note is a number too long to be written, although the data
conforms. -/
theorem not_accepts_topic_of_unwritable_note :
    topicsAndNotes.SelfContained 0 ∧
      (topicsAndNotes.registryAt 0).find? "Topic" = some (.type 1) ∧
      (Value.dict none (topicEntries unwritableNumber)).IsPlain ∧
      topicsAndNotes.Conforms 0 .strict anySide 1 (topicEntries unwritableNumber) ∧
      ¬ topicsAndNotes.Accepts 1 .strict .none (.dict none (topicEntries unwritableNumber)) := by
  refine ⟨topicsAndNotes_selfContained, rfl, ?_, conforms_topicEntries .strict _, ?_⟩
  · exact isPlain_topicEntries (by simp only [unwritableNumber, Value.IsPlain, Value.schema?])
  · rintro ⟨verdict, built, h, _⟩
    have hfails : (Record.make topicsAndNotes 1 (.dict none (topicEntries unwritableNumber))
        .strict none none .none).answer.isOk = false := by decide +kernel
    rw [h] at hfails
    cases hfails

end Catalog

end TypedRecord
