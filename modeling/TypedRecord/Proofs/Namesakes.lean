import TypedRecord.Proofs.Canonical
import TypedRecord.Proofs.Culprit

/-!
# TypedRecord.Proofs.Namesakes

Records whose schema is named like a primitive type.

The containers and the schemas are matched by what a value is. A primitive type is matched by the
name under which the kind of a value is reported, and a record is reported under the name of its
schema, which whoever declares the schema is free to choose. `TakenFor` is what comes of that: the
names of schemas that are taken for the name of a primitive type. A record passes for a primitive
type exactly when its schema is a namesake of it, and there is such a type exactly when the name,
ignoring case, is one of the six names of primitive types.

That a value matches says that everything in it matches what is asked for there
(`Matches.at_positions`), so a record that is nobody's namesake is refused wherever it stands.
-/

namespace TypedRecord

open Text

/-- The name of a schema is taken for that of a primitive type: the two are the same up to case, or
the schema is named like the whole numbers and floating-point numbers are asked for. -/
def TakenFor (schema name : String) : Prop :=
  sameFolded schema name = true ∨ schema = "int" ∧ sameFolded name "float" = true

namespace Descriptor

theorem categoryOfName_congr {a b : String} (h : sameFolded a b = true) :
    categoryOfName a = categoryOfName b := by
  have hfold : sameFolded a = sameFolded b := by
    funext c
    rw [sameFolded, sameFolded, eq_of_beq h]
  rw [categoryOfName, categoryOfName, hfold]

theorem exists_of_primitive {name : String} (h : categoryOfName name = .primitive) :
    ∃ usual ∈ primitiveNames, sameFolded name usual = true := by
  unfold categoryOfName at h
  split at h
  · cases h
  · split at h
    · cases h
    · split at h
      · next hany => exact List.any_eq_true.mp hany
      · cases h

theorem name_of_primitive {name : String} (h : categoryOfName name = .primitive)
    {nullable : Bool} : (named name nullable).name = name := by
  simp only [Descriptor.name, h]

theorem isWellFormed_primitive {usual : String} (h : usual ∈ primitiveNames) :
    (named usual false).isWellFormed = true := by
  have hnames : ∀ name ∈ primitiveNames, isName name.toList = true := by decide +kernel
  exact hnames usual h

/-- A primitive type is a name, which is kept as it was written. -/
theorem eq_named_of_primitive {d : Descriptor} (h : d.category = .primitive) :
    d = .named d.name d.nullable ∧ categoryOfName d.name = .primitive := by
  cases d with
  | named name nullable =>
    change categoryOfName name = .primitive at h
    rw [name_of_primitive h]
    exact ⟨rfl, h⟩
  | array element nullable => cases h

end Descriptor

section Namesakes

variable {cat : Catalog} {registry : Option RegistryId} {d p : Descriptor} {v w : Value}
  {schema : String}

/-- A value that matches has in it, at any positions, only what matches there. -/
theorem Matches.at_positions (h : Matches cat registry d v) {positions : List Nat}
    (hat : v.at? positions = some w) (hinside : d.inside? positions.length = some p) :
    Matches cat registry p w := by
  -- Each position steps into a sequence and, with it, into a typed array.
  induction positions generalizing d v with
  | nil =>
    obtain rfl : v = w := Option.some.inj hat
    obtain rfl : d = p := Option.some.inj hinside
    exact h
  | cons i rest ih =>
    obtain ⟨items, hitems, item, hitem, hrest⟩ : ∃ items, v.items? = some items ∧
        ∃ item, items[i]? = some item ∧ item.at? rest = some w := by
      simpa [Value.at?, Option.bind_eq_some_iff] using hat
    obtain ⟨element, helement, hinner⟩ : ∃ element, d.element? = some element ∧
        element.inside? rest.length = some p := by
      simpa [Descriptor.inside?, Option.bind_eq_some_iff] using hinside
    cases d with
    | named name nullable => cases helement
    | array inner nullable =>
      obtain rfl : inner = element := Option.some.inj helement
      have hall := (matches_items_iff hitems nullable).mp h
      exact ih (hall item (List.mem_of_getElem? hitem)) hrest hinner

/-- A record matches a primitive type exactly when its schema is a namesake. -/
theorem matches_primitive_iff (hw : w.schema? = some schema) (hp : p.category = .primitive) :
    Matches cat registry p w ↔ TakenFor schema p.name := by
  obtain ⟨hnamed, hcategory⟩ := Descriptor.eq_named_of_primitive hp
  -- A record is not null, so that it is the name alone that is asked.
  have hkind : w.kind = .record := w.kind_eq_record_iff.mpr (by simp [hw])
  rw [hnamed, matches_named_iff (by simp [hkind]), ← hnamed]
  simp only [NameAsks, hcategory, w.kindName_of_schema? hw, TakenFor]

/-- A schema is a namesake of some primitive type exactly when its name is one of theirs up to case. -/
theorem exists_takenFor_iff (schema : String) :
    (∃ s d, Descriptor.parse s = .ok d ∧ d.category = .primitive ∧ TakenFor schema d.name) ↔
      Descriptor.categoryOfName schema = .primitive := by
  constructor
  · rintro ⟨s, d, -, hd, htaken⟩
    rcases htaken with hsame | ⟨rfl, -⟩
    · rw [Descriptor.categoryOfName_congr hsame]
      exact (Descriptor.eq_named_of_primitive hd).2
    · -- The name that is taken for `float` names a primitive type itself.
      decide
  · intro hschema
    obtain ⟨usual, hmem, hsame⟩ := Descriptor.exists_of_primitive hschema
    have hcategory : Descriptor.categoryOfName usual = .primitive :=
      Descriptor.categoryOfName_congr hsame ▸ hschema
    have hread := Descriptor.parse_text (Descriptor.isWellFormed_primitive hmem)
    refine ⟨_, _, hread, hcategory, .inl ?_⟩
    rwa [Descriptor.name_of_primitive hcategory]

end Namesakes

/-- A record, or any object bound to a schema, passes the check against a primitive type exactly when
its schema is a namesake of that type, on its own as well as in an array. At no place of any value
does another record pass for a primitive type. Only schemas that are named, up to case, like one of
the primitive types have one that they are taken for. -/
theorem passes_for_primitive_iff (cat : Catalog) {v : Validator} (hv : v.enabled = true) {w : Value}
    {schema : String} (hw : w.schema? = some schema) :
    (∀ declared d, declared.descriptor = .ok d → d.category = .primitive →
      ∃ passed, (check (cat.known v.registry) v w declared).answer = .ok passed ∧
        (passed = true ↔ TakenFor schema d.name)) ∧
    (∀ declared d nullable mark, declared.descriptor = .ok (.array d nullable) →
      d.category = .primitive →
      ∃ passed, (check (cat.known v.registry) v (.list mark [w]) declared).answer = .ok passed ∧
        (passed = true ↔ TakenFor schema d.name)) ∧
    (∀ declared d value positions p, declared.descriptor = .ok d →
      value.at? positions = some w → d.inside? positions.length = some p →
      p.category = .primitive → ¬ TakenFor schema p.name →
      (check (cat.known v.registry) v value declared).answer = .ok false) ∧
    ((∃ s d, Descriptor.parse s = .ok d ∧ d.category = .primitive ∧ TakenFor schema d.name) ↔
      Descriptor.categoryOfName schema = .primitive) := by
  refine ⟨?_, ?_, ?_, exists_takenFor_iff schema⟩
  · intro declared d hd hprimitive
    refine ⟨_, answer_check_of_descriptor hv hd w, ?_⟩
    rw [matchesDescriptor_iff, matches_primitive_iff hw hprimitive]
  · intro declared d nullable mark hd hprimitive
    have hitems : (Value.list mark [w]).items? = some [w] := rfl
    refine ⟨_, answer_check_of_descriptor hv hd _, ?_⟩
    rw [matchesDescriptor_iff, matches_items_iff hitems, List.forall_mem_singleton]
    exact matches_primitive_iff hw hprimitive
  · intro declared d value positions p hd hat hinside hprimitive htaken
    rw [answer_check_of_descriptor hv hd]
    have hmisses : ¬ Matches cat v.registry d value := fun h =>
      htaken ((matches_primitive_iff hw hprimitive).mp (h.at_positions hat hinside))
    rw [← matchesDescriptor_iff, Bool.not_eq_true] at hmisses
    rw [hmisses]

/-- An object bound to a schema of some name. -/
def boundTo (schema : String) : Value := .atom none (.bound none schema)

theorem parse_string : Descriptor.parse "String" = .ok (.named "String" false) := by
  have hmem : "String" ∈ Descriptor.primitiveNames := by decide
  simpa [Descriptor.text] using Descriptor.parse_text (Descriptor.isWellFormed_primitive hmem)

/-- Rows of whole numbers, where an object bound to a schema took the place of the second number. -/
def mixedUpRow : Value := .list none [.list none [.int 1, boundTo "Item"], @Value.tuple .fixed none []]

theorem passes_for_primitive_of_namesakes :
    (check none {} (boundTo "STRING") (.str "String")).answer = .ok true ∧
    (check none {} mixedUpRow (.str "Array<Array<int>>")).answer = .ok false := by
  have hrows : Descriptor.parse "Array<Array<int>>" =
      .ok (.array (.array (.named "int" false) false) false) :=
    Descriptor.parse_of_text (Descriptor.Derivation.bare Descriptor.intName false).bracketed.bracketed
      (by decide)
  constructor
  · obtain ⟨passed, hanswer, hpassed⟩ :=
      (passes_for_primitive_iff {} (v := {}) rfl (w := boundTo "STRING") rfl).1
        (.str "String") _ parse_string (by decide +kernel)
    rw [hpassed.mpr (.inl (by decide +kernel))] at hanswer
    exact hanswer
  · refine (passes_for_primitive_iff {} (v := {}) rfl (w := boundTo "Item") rfl).2.2.1
      (.str "Array<Array<int>>") _ mixedUpRow [0, 1] (.named "int" false) hrows rfl rfl
      (by decide +kernel) ?_
    rintro (hsame | ⟨hint, -⟩)
    · exact absurd hsame (by decide +kernel)
    · exact absurd hint (by decide)

/-- It is not so that a record passes for no primitive type: one of a schema named `String` does. -/
theorem not_refused_as_primitive :
    ¬ ∀ (cat : Catalog) (v : Validator) (w value declared : Value) (d p : Descriptor)
        (positions : List Nat), v.enabled = true → w.kind = .record →
      declared.descriptor = .ok d → value.at? positions = some w →
      d.inside? positions.length = some p → p.category = .primitive →
        (check (cat.known v.registry) v value declared).answer = .ok false := by
  intro h
  have hrefused := h {} {} (boundTo "String") (boundTo "String") (.str "String") _ _ [] rfl rfl
    parse_string rfl rfl (by decide +kernel)
  have hpasses : matchesDescriptor none (.named "String" false) (boundTo "String") = true := by
    decide +kernel
  rw [answer_check_of_parse rfl parse_string] at hrefused
  exact absurd (hpasses.symm.trans (Except.ok.inj hrefused)) (by decide)

end TypedRecord
