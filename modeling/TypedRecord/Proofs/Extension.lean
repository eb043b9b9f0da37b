import TypedRecord.Proofs.Record.EmptyStart

/-!
# TypedRecord.Proofs.Extension

What extending a record type changes, and how it ends.

A type that may not be extended is left alone. Any other type is extended by whatever fields are given:
they win over the declared ones of the same keys, which stay where they are, and the others follow in
their order (`extend_extends`). Only then are the keys of the fields put in order, for the log; if they
have none, the extension fails and yet has happened (`not_schemaOf_eq_of_failed_extension`).
-/

namespace TypedRecord

namespace Catalog

/-- The catalog in which a record type is extended by some fields. -/
def extended (cat : Catalog) (t : TypeId) (fields : Schema) : Catalog :=
  cat.updateType t fun type => { type with extensions := type.extensions.putAll fields }

/-- From one catalog to the other a record type was extended by some fields, and nothing else
happened. -/
structure Extends (cat cat' : Catalog) (t : TypeId) (fields : Schema) : Prop where
  type_eq : cat'.typeAt t =
    { cat.typeAt t with extensions := (cat.typeAt t).extensions.putAll fields }
  keys_eq : (cat'.schemaOf t).keys =
    (cat.schemaOf t).keys ++ fields.keys.filter fun k => !(cat.schemaOf t).has k
  find?_eq : ∀ key, (cat'.schemaOf t).find? key =
    (fields.find? key).or ((cat.schemaOf t).find? key)
  others_eq : ∀ u, u ≠ t → cat'.typeAt u = cat.typeAt u
  registries_eq : cat'.registries = cat.registries

section Extended

variable {cat : Catalog} {t : TypeId} {fields : Schema}

theorem typeAt_extended (ht : t < cat.types.length) (fields : Schema) (u : TypeId) :
    (cat.extended t fields).typeAt u =
      if u = t then { cat.typeAt t with extensions := (cat.typeAt t).extensions.putAll fields }
      else cat.typeAt u := typeAt_updateType ht _ u

/-- The fields may as well be entered into the schema that records were held to. -/
theorem schemaOf_extended (ht : t < cat.types.length)
    (hextensions : (cat.typeAt t).extensions.Distinct) (fields : Schema) :
    (cat.extended t fields).schemaOf t = (cat.schemaOf t).putAll fields := by
  unfold schemaOf RecordType.effectiveSchema
  rw [typeAt_extended ht, if_pos rfl]
  exact Entries.putAll_putAll_of_distinct hextensions _ fields

theorem extends_extended (ht : t < cat.types.length)
    (hextensions : (cat.typeAt t).extensions.Distinct) (hfields : fields.Distinct) :
    cat.Extends (cat.extended t fields) t fields where
  type_eq := by rw [typeAt_extended ht, if_pos rfl]
  keys_eq := by
    rw [schemaOf_extended ht hextensions]
    exact Entries.keys_putAll_of_distinct hfields _
  find?_eq key := by
    rw [schemaOf_extended ht hextensions]
    exact Entries.find?_putAll_of_distinct hfields key _
  others_eq u hu := by rw [typeAt_extended ht, if_neg hu]
  registries_eq := rfl

theorem run_extend_of_fixed (h : (cat.typeAt t).extendable = false) (fields : Schema) :
    ((extend t fields).run cat).state = cat ∧
      ((extend t fields).run cat).result = .error (.notExtendable (cat.typeAt t).schemaName) := by
  unfold extend
  rw [Act.run_get_bind]
  simp only [h]
  exact ⟨rfl, rfl⟩

/-- The extension is in place before its keys are put in order, which decides how it ends. -/
theorem run_extend_of_extendable (h : (cat.typeAt t).extendable = true) (fields : Schema) :
    ((extend t fields).run cat).state = cat.extended t fields ∧
      ((extend t fields).run cat).result = (shownKeysSorted fields.keys).map fun _ => () := by
  unfold extend
  rw [Act.run_get_bind]
  simp only [h]
  cases hshown : shownKeysSorted fields.keys <;> exact ⟨rfl, rfl⟩

/-- A type that may not be extended is not, and what was asked for fails. Any other type is extended, and
if the keys of the fields can be put in order and written, as texts always can, that is all; if they
cannot, the extension fails and has happened all the same. -/
theorem extend_extends (ht : t < cat.types.length)
    (hextensions : (cat.typeAt t).extensions.Distinct) (hfields : fields.Distinct) :
    ((cat.typeAt t).extendable = false →
      ((extend t fields).run cat).state = cat ∧
      ((extend t fields).run cat).result = .error (.notExtendable (cat.typeAt t).schemaName)) ∧
    ((cat.typeAt t).extendable = true →
      cat.Extends ((extend t fields).run cat).state t fields ∧
      ((extend t fields).run cat).result = (shownKeysSorted fields.keys).map (fun _ => ()) ∧
      ((∀ k ∈ fields.keys, k.IsText) → ((extend t fields).run cat).result = .ok ())) := by
  refine ⟨fun hfixed => run_extend_of_fixed hfixed fields, fun hextendable => ?_⟩
  obtain ⟨hstate, hresult⟩ := run_extend_of_extendable hextendable fields
  refine ⟨?_, hresult, fun htexts => ?_⟩
  · rw [hstate]
    exact extends_extended ht hextensions hfields
  · obtain ⟨words, hwords⟩ := exists_shownKeysSorted htexts
    rw [hresult, hwords]
    rfl

end Extended

/-- Notes, which have been extended by a color. -/
def coloredNotes : Catalog where
  types := [.root,
    { className := "Note", schemaName := "Note", baseSchema := [(.str "text", .str "String")],
      extensions := [(.str "color", .str "String?")] }]

/-- A field under a text and one under a number. -/
def mixedFields : Schema := [(.str "size", .str "int?"), (.atom none (.int 5), .str "int?")]

theorem distinct_mixedFields : mixedFields.Distinct := by
  unfold Entries.Distinct
  decide +kernel

/-- A text and a number have no order. -/
theorem run_extend_mixedFields :
    ((extend 1 mixedFields).run coloredNotes).state = coloredNotes.extended 1 mixedFields ∧
      ((extend 1 mixedFields).run coloredNotes).result = .error .wrongKind := by
  have hsorted : Key.sorted? mixedFields.keys = none := by decide +kernel
  have hshown : shownKeysSorted mixedFields.keys = .error .wrongKind := by
    unfold shownKeysSorted
    rw [hsorted]
  have hrun := @run_extend_of_extendable coloredNotes 1 rfl mixedFields
  rw [hshown] at hrun
  exact hrun

/-- So the extension by both of them fails, and the notes are extended. -/
theorem extend_mixedFields : coloredNotes.Extends ((extend 1 mixedFields).run coloredNotes).state 1
      mixedFields ∧
    ((extend 1 mixedFields).run coloredNotes).result = .error .wrongKind := by
  have hextendable : (coloredNotes.typeAt 1).extendable = true := rfl
  have hextensions : (coloredNotes.typeAt 1).extensions.Distinct := List.pairwise_singleton ..
  obtain ⟨hextends, -⟩ :=
    (extend_extends (by decide) hextensions distinct_mixedFields).2 hextendable
  exact ⟨hextends, run_extend_mixedFields.2⟩

/-- Not every extension that fails leaves the schema as it was. -/
theorem not_schemaOf_eq_of_failed_extension :
    ¬ ∀ (cat : Catalog) (t : TypeId) (fields : Schema) (failure : Failure), t < cat.types.length →
      (cat.typeAt t).extensions.Distinct → fields.Distinct →
        ((extend t fields).run cat).result = .error failure →
          ((extend t fields).run cat).state.schemaOf t = cat.schemaOf t := by
  intro h
  have hextensions : (coloredNotes.typeAt 1).extensions.Distinct := List.pairwise_singleton ..
  obtain ⟨hstate, hfailed⟩ := run_extend_mixedFields
  have hsame := h coloredNotes 1 mixedFields .wrongKind (by decide) hextensions distinct_mixedFields
    hfailed
  rw [hstate] at hsame
  exact absurd (congrArg Entries.keys hsame) (by decide +kernel)

end Catalog

end TypedRecord
