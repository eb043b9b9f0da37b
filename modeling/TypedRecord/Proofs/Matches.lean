import TypedRecord.Validation
import TypedRecord.Proofs.Conformance
import TypedRecord.Proofs.Grammar

/-!
# TypedRecord.Proofs.Matches

Which values a descriptor describes.

The code looks for a mismatch: it walks into arrays, carries the way along and stops at the first
culprit. `Matches` says what a value must be instead, by recursion on the descriptor. Null is settled
first, at every level; the names of the containers and of the primitives are read up to case and the
names of schemas are not.

`mismatch?_eq_none_iff` ties the two, and `check_decides` is what it means for the check of a single
value against a text.
-/

namespace TypedRecord

/-- What a name asks of a value that is not null. -/
def NameAsks (cat : Catalog) (registry : Option RegistryId) (name : String) (v : Value) : Prop :=
  match Descriptor.categoryOfName name with
  | .untypedArray => ∃ items, v.items? = some items
  | .map => (∃ entries, v.entries? = some entries) ∧ v.schema? = none
  | .reference =>
    v.schema? = some name ∧ ∀ r, registry = some r → (cat.registryAt r).has name = true
  | .primitive | .array =>
    Text.sameFolded v.kindName name = true ∨
      v.kindName = "int" ∧ Text.sameFolded name "float" = true

/-- When a value matches a descriptor whose references are looked up in a registry, or in none. -/
def Matches (cat : Catalog) (registry : Option RegistryId) : Descriptor → Value → Prop
  | .array element nullable, v =>
    if v.kind = .nil then nullable = true
    else ∃ items, v.items? = some items ∧ ∀ item ∈ items, Matches cat registry element item
  | .named name nullable, v =>
    if v.kind = .nil then nullable = true else NameAsks cat registry name v

/-! ### Kinds by what is in a value -/

namespace Value

theorem kind_eq_nil_iff (v : Value) : v.kind = .nil ↔ ∃ mark, v = .atom mark .nil := by
  cases v with
  | atom mark a => cases a <;> simp [kind]
  | _ => simp [kind]

theorem kind_eq_dictionary_iff (v : Value) :
    v.kind = .dictionary ↔ (∃ entries, v.entries? = some entries) ∧ v.schema? = none := by
  cases v with
  | atom mark a => cases a <;> simp [kind, entries?]
  | _ => simp [kind, entries?, schema?]

end Value

/-! ### The search for a mismatch -/

section Matches

variable {cat : Catalog} {registry : Option RegistryId} {d element : Descriptor} {v : Value}

theorem knows_iff (name : String) :
    knows (cat.known registry) name = true ↔
      ∀ r, registry = some r → (cat.registryAt r).has name = true := by
  cases registry with
  | none => simp [Catalog.known, knows]
  | some r =>
    rw [Catalog.knows_known_iff]
    simp [Registry.has, Option.isSome_iff_exists]

theorem nameMatches_iff (name : String) (v : Value) :
    nameMatches (cat.known registry) name v = true ↔ NameAsks cat registry name v := by
  unfold nameMatches NameAsks
  cases Descriptor.categoryOfName name with
  | untypedArray => simp [v.kind_eq_array_iff]
  | map => simp only [decide_eq_true_eq, v.kind_eq_dictionary_iff]
  | reference =>
    simp only [Bool.and_eq_true, decide_eq_true_eq, knows_iff]
    exact and_comm
  | primitive | array => simp [primitiveMatches]

theorem matches_of_nil (hv : v.kind = .nil) :
    Matches cat registry d v ↔ d.nullable = true := by
  cases d <;> simp [Matches, hv, Descriptor.nullable]

theorem matches_array_iff (hv : v.kind ≠ .nil) (nullable : Bool) :
    Matches cat registry (.array element nullable) v ↔
      ∃ items, v.items? = some items ∧ ∀ item ∈ items, Matches cat registry element item := by
  simp [Matches, hv]

theorem matches_named_iff (hv : v.kind ≠ .nil) (name : String) (nullable : Bool) :
    Matches cat registry (.named name nullable) v ↔ NameAsks cat registry name v := by
  simp [Matches, hv]

/-- A sequence matches a typed array when each of its items matches the element. -/
theorem matches_items_iff {items : List Value} (h : v.items? = some items) (nullable : Bool) :
    Matches cat registry (.array element nullable) v ↔
      ∀ item ∈ items, Matches cat registry element item := by
  have hkind : v.kind = .array := v.kind_eq_array_iff.mpr ⟨items, h⟩
  rw [matches_array_iff (by simp [hkind])]
  simp [h]

/-- Null is settled before anything else is looked at. -/
theorem mismatch?_of_nil (hv : v.kind = .nil) (known : Option (List String)) (d : Descriptor) :
    mismatch? known d v = none ↔ d.nullable = true := by
  obtain ⟨mark, rfl⟩ := v.kind_eq_nil_iff.mp hv
  cases d <;> simp [mismatch?]

/-- No mismatch is found exactly where the value matches. -/
theorem mismatch?_eq_none_iff (d : Descriptor) (v : Value) :
    mismatch? (cat.known registry) d v = none ↔ Matches cat registry d v := by
  -- For any value: the items of an array are asked to match its element.
  induction d generalizing v with
  | named name nullable =>
    by_cases hnil : v.kind = .nil
    · rw [mismatch?_of_nil hnil, matches_of_nil hnil]
    · rw [mismatch?_named_iff hnil, nameMatches_iff, matches_named_iff hnil]
  | array element nullable ih =>
    by_cases hnil : v.kind = .nil
    · rw [mismatch?_of_nil hnil, matches_of_nil hnil]
    · cases hitems : v.items? with
      | none =>
        refine iff_of_false (mismatch?_array_of_no_items hitems hnil _ element nullable) ?_
        rw [matches_array_iff hnil]
        simp [hitems]
      | some items =>
        rw [mismatch?_array_iff hitems, matches_items_iff hitems]
        exact forall₂_congr fun item _ => ih item

theorem matchesDescriptor_iff (d : Descriptor) (v : Value) :
    matchesDescriptor (cat.known registry) d v = true ↔ Matches cat registry d v := by
  rw [matchesDescriptor, Option.isNone_iff_eq_none, mismatch?_eq_none_iff]

end Matches

/-! ### Descriptors as texts -/

namespace Descriptor

/-- The derivation of a name without blanks, with or without the mark. -/
def Derivation.bare (n : Identifier) (nullable : Bool) : Derivation :=
  .name ⟨noBlanks, noBlanks, if nullable then some noBlanks else none⟩ n

/-- The derivation of an array, spelled as usual and without blanks, of what is derived. -/
def Derivation.bracketed (D : Derivation) : Derivation :=
  .array ⟨noBlanks, noBlanks, none⟩ ⟨"Array".toList, by decide⟩ D

theorem Derivation.text_bracketed (D : Derivation) :
    D.bracketed.text = "Array<".toList ++ D.text ++ ">".toList := by
  simp [bracketed, text, Margin.around, Margin.suffix, noBlanks]

theorem parse_of_text {s : String} (D : Derivation) (h : D.text = s.toList) :
    parse s = .ok D.tree := by
  rw [parse, ← h, parseChars_text]

theorem exists_text_of_parse {s : String} {d : Descriptor} (h : parse s = .ok d) :
    ∃ D : Derivation, D.text = s.toList ∧ D.tree = d := by
  cases hchars : parseChars s.toList with
  | error fault => rw [parse, hchars] at h; cases h
  | ok read =>
    obtain ⟨D, hD⟩ := exists_derivation hchars
    exact ⟨D, hD, Except.ok.inj ((parse_of_text D hD).symm.trans h)⟩

/-- The text of a descriptor in brackets is the text of an array of what it describes. -/
theorem parse_bracketed {s : String} {d : Descriptor} (h : parse s = .ok d) :
    parse ("Array<" ++ s ++ ">") = .ok (.array d false) := by
  obtain ⟨D, hD, rfl⟩ := exists_text_of_parse h
  have htext : D.bracketed.text = ("Array<" ++ s ++ ">").toList := by
    rw [D.text_bracketed, hD]
    simp only [String.toList_append]
  exact parse_of_text D.bracketed htext

end Descriptor

/-! ### The check of one value -/

section Check

variable {known : Option (List String)} {v : Validator}

/-- The check of a value against a text comes to an end, malformed or not. -/
theorem answer_check (hv : v.enabled = true) (value : Value) (mark : Mark) (s : String) :
    (check known v value (.atom mark (.str s))).answer =
      .ok (match Descriptor.parse s with
        | .ok d => matchesDescriptor known d value
        | .error _ => false) := by
  unfold check
  rw [if_pos hv]
  simp only [Value.descriptor]
  cases Descriptor.parse s with
  | ok d => rfl
  | error m => rfl

/-- The check against a descriptor, read or still to be read, answers whether the value matches. -/
theorem answer_check_of_descriptor (hv : v.enabled = true) {declared : Value} {d : Descriptor}
    (hd : declared.descriptor = .ok d) (value : Value) :
    (check known v value declared).answer = .ok (matchesDescriptor known d value) := by
  unfold check
  rw [if_pos hv, hd]
  rfl

theorem answer_check_of_parse (hv : v.enabled = true) {s : String} {d : Descriptor}
    (hs : Descriptor.parse s = .ok d) (value : Value) (mark : Mark) :
    (check known v value (.atom mark (.str s))).answer = .ok (matchesDescriptor known d value) := by
  have hd : (Value.atom mark (.str s)).descriptor = .ok d := hs
  exact answer_check_of_descriptor hv hd value

end Check

/-- The check of a value against a text answers whether the text is a descriptor that the value
matches. So a sequence passes the check against an array when its items pass the check against the
element. -/
theorem check_decides (cat : Catalog) {v : Validator} (hv : v.enabled = true) (value : Value)
    (mark : Mark) (s : String) :
    (∃ passed, (check (cat.known v.registry) v value (.atom mark (.str s))).answer = .ok passed ∧
      (passed = true ↔
        ∃ d, Descriptor.parse s = .ok d ∧ Matches cat v.registry d value)) ∧
    ∀ d items, Descriptor.parse s = .ok d → value.items? = some items →
      ((check (cat.known v.registry) v value
          (.atom mark (.str ("Array<" ++ s ++ ">")))).answer = .ok true ↔
        ∀ item ∈ items,
          (check (cat.known v.registry) v item (.atom mark (.str s))).answer = .ok true) := by
  constructor
  · refine ⟨_, answer_check hv value mark s, ?_⟩
    cases hs : Descriptor.parse s with
    | ok d => simp [matchesDescriptor_iff]
    | error m => simp
  · intro d items hs hitems
    rw [answer_check_of_parse hv (Descriptor.parse_bracketed hs)]
    simp only [answer_check_of_parse hv hs, Except.ok.injEq, matchesDescriptor_iff]
    exact matches_items_iff hitems false

/-- The name of the whole numbers. -/
def Descriptor.intName : Descriptor.Identifier :=
  ⟨'i', "nt".toList, by decide, fun c hc => .inl (List.all_eq_true.mp (by decide) c hc)⟩

/-- Numbers in two rows, one of them missing, and the second row empty. -/
def numberRows : Value :=
  .list none [.list none [.int 1, .nil, .int 3], @Value.tuple .fixed none []]

theorem check_numberRows :
    Matches {} none (.array (.array (.named "int" true) false) false) numberRows ∧
      ¬ Matches {} none (.array (.array (.named "int" false) false) false) numberRows := by
  obtain ⟨⟨passed, hpassed, hmatches⟩, -⟩ :=
    check_decides {} (v := {}) rfl numberRows none "Array<Array<int?>>"
  obtain ⟨⟨refused, hrefused, hmisses⟩, -⟩ :=
    check_decides {} (v := {}) rfl numberRows none "Array<Array<int>>"
  have hnullable : Descriptor.parse "Array<Array<int?>>" =
      .ok (.array (.array (.named "int" true) false) false) :=
    Descriptor.parse_of_text (Descriptor.Derivation.bare Descriptor.intName true).bracketed.bracketed
      (by decide)
  have hrequired : Descriptor.parse "Array<Array<int>>" =
      .ok (.array (.array (.named "int" false) false) false) :=
    Descriptor.parse_of_text (Descriptor.Derivation.bare Descriptor.intName false).bracketed.bracketed
      (by decide)
  rw [answer_check_of_parse rfl hnullable] at hpassed
  rw [answer_check_of_parse rfl hrequired] at hrefused
  constructor
  · obtain rfl : passed = true := (Except.ok.inj hpassed).symm.trans (by decide +kernel)
    obtain ⟨d, hd, h⟩ := hmatches.mp rfl
    obtain rfl := Except.ok.inj (hnullable.symm.trans hd)
    exact h
  · obtain rfl : refused = false := (Except.ok.inj hrefused).symm.trans (by decide +kernel)
    intro h
    exact absurd (hmisses.mpr ⟨_, hrequired, h⟩) (by simp)

/-- Numbers in a deque. -/
def numberQueue : Value := @Value.tuple .deque none [.int 0, .int 1]

/-- A deque passes for an array, though it is neither a list nor a fixed tuple. -/
theorem numberQueue_passes :
    (check none {} numberQueue (.str "Array<int>")).answer = .ok true ∧
      (check none {} numberQueue (.str "Array")).answer = .ok true ∧
      ∀ mark items, numberQueue ≠ .list mark items ∧ numberQueue ≠ @Value.tuple .fixed mark items := by
  have hpasses (s : String)
      (h : Act.passes id (check none {} numberQueue (.str s)).answer = true) :
      (check none {} numberQueue (.str s)).answer = .ok true := by
    obtain ⟨passed, hanswer, rfl⟩ := Act.exists_of_passes h
    exact hanswer
  refine ⟨hpasses _ (by decide +kernel), hpasses _ (by decide +kernel), fun mark items => ?_⟩
  constructor <;> intro h <;> cases h

end TypedRecord
