import TypedRecord.Proofs.Matches

/-!
# TypedRecord.Proofs.Canonical

The canonical text of a descriptor.

`Descriptor.text` is written from the tree alone: the blanks that were read, and the case of the
word before a bracket, are in the derivation and not in the tree. So the same tree has many
derivations, and `Derivation.tidy` picks the one among them that has no blanks and spells the word
as usual. It stands for the same tree (`Derivation.tree_tidy`) and derives the canonical text
(`Derivation.text_tidy`). Everything else here is read off these two and off the fact that every
derivation is read as what it stands for.

Names are kept as they were written, case included. A tree may hold any text for a name; those whose
names are type names are the trees that derivations stand for (`exists_tree_iff`).
-/

namespace TypedRecord

open Text

namespace Descriptor

/-- Whether every name in a descriptor is a type name. -/
def isWellFormed : Descriptor → Bool
  | named name _ => isName name.toList
  | array element _ => element.isWellFormed

/-! ### Derivations without blanks -/

/-- The margin without its blanks. -/
def Margin.tight (m : Margin) : Margin := ⟨noBlanks, noBlanks, m.mark.map fun _ => noBlanks⟩

theorem spells_arrayName : arrayName.toList.map Char.toLower = "array".toList := by decide

/-- The word as it is usually spelled. -/
def ArrayWord.usual : ArrayWord := ⟨arrayName.toList, spells_arrayName⟩

/-- The derivation without its blanks, and with the word of an array as it is usually spelled. -/
def Derivation.tidy : Derivation → Derivation
  | name m n => .name m.tight n
  | array m _ element => .array m.tight .usual element.tidy

theorem Margin.isSome_mark_tight (m : Margin) : m.tight.mark.isSome = m.mark.isSome := by
  simp [tight]

theorem Margin.around_tight (m : Margin) (base : List Char) :
    m.tight.around base = base ++ (nullMark m.mark.isSome).toList := by
  cases hmark : m.mark <;> simp [tight, around, suffix, hmark, noBlanks, nullMark]

theorem Derivation.tree_tidy (D : Derivation) : D.tidy.tree = D.tree := by
  induction D with
  | name m n => rw [tidy, tree, tree, m.isSome_mark_tight]
  | array m w element ih => rw [tidy, tree, tree, ih, m.isSome_mark_tight]

theorem Derivation.text_tidy (D : Derivation) : D.tidy.text = D.tree.text.toList := by
  induction D with
  | name m n =>
    rw [tidy, text, m.around_tight, tree, Descriptor.text, String.toList_append,
      String.toList_ofList]
  | array m w element ih =>
    rw [tidy, text, m.around_tight, ih, tree, Descriptor.text]
    simp only [String.toList_append]
    rfl

/-- Nothing that a canonical text is put together from is blank. -/
theorem Derivation.not_blank_text_tree (D : Derivation) :
    ∀ c ∈ D.tree.text.toList, isBlank c = false := by
  have hmark (nullable : Bool) : ∀ c ∈ (nullMark nullable).toList, isBlank c = false := by
    cases nullable <;> simp [nullMark, isBlank]
  have hopens : ∀ c ∈ "Array<".toList, isBlank c = false := by simp [isBlank]
  have hcloses : ∀ c ∈ ">".toList, isBlank c = false := by simp [isBlank]
  induction D with
  | name m n =>
    intro c hc
    rw [tree, Descriptor.text, String.toList_append, String.toList_ofList] at hc
    rcases List.mem_append.mp hc with hc | hc
    · exact n.not_blank c hc
    · exact hmark _ c hc
  | array m w element ih =>
    intro c hc
    rw [tree, Descriptor.text] at hc
    simp only [String.toList_append, List.mem_append] at hc
    rcases hc with ((hc | hc) | hc) | hc
    · exact hopens c hc
    · exact ih c hc
    · exact hcloses c hc
    · exact hmark _ c hc

/-! ### The trees that are read -/

/-- Derivations stand for the trees whose names are type names. -/
theorem exists_tree_iff (d : Descriptor) :
    (∃ D : Derivation, D.tree = d) ↔ d.isWellFormed = true := by
  constructor
  · rintro ⟨D, rfl⟩
    induction D with
    | name m n =>
      rw [Derivation.tree, isWellFormed, String.toList_ofList]
      exact (isName_iff n.text).mpr ⟨n, rfl⟩
    | array m w element ih => exact ih
  · intro hwell
    induction d with
    | named name nullable =>
      -- Of the many derivations of a tree, the one without blanks is at hand.
      obtain ⟨n, hn⟩ := (isName_iff name.toList).mp hwell
      refine ⟨.bare n nullable, ?_⟩
      rw [Derivation.bare, Derivation.tree, hn, String.ofList_toList]
      cases nullable <;> rfl
    | array element nullable ih =>
      obtain ⟨D, rfl⟩ := ih hwell
      refine ⟨.array ⟨noBlanks, noBlanks, if nullable then some noBlanks else none⟩ .usual D, ?_⟩
      cases nullable <;> rfl

theorem isWellFormed_of_parse {t : String} {d : Descriptor} (h : parse t = .ok d) :
    d.isWellFormed = true := by
  obtain ⟨D, -, htree⟩ := exists_text_of_parse h
  exact (exists_tree_iff d).mp ⟨D, htree⟩

/-- The canonical text of a descriptor is read as that descriptor. -/
theorem parse_text {d : Descriptor} (h : d.isWellFormed = true) : parse d.text = .ok d := by
  obtain ⟨D, rfl⟩ := (exists_tree_iff d).mpr h
  rw [parse_of_text D.tidy D.text_tidy, D.tree_tidy]

theorem text_inj {d d' : Descriptor} (h : d.isWellFormed = true) (h' : d'.isWellFormed = true)
    (htext : d.text = d'.text) : d = d' := by
  have hboth := (parse_text h).symm.trans (htext ▸ parse_text h')
  exact Except.ok.inj hboth

theorem isWellFormed_required (d : Descriptor) : d.required.isWellFormed = d.isWellFormed := by
  cases d <;> rfl

/-! ### Depth -/

/-- A text opens as many arrays one inside the other as there are in the tree. -/
theorem nestsBeyond_text (D : Derivation) (n : Nat) :
    nestsBeyond n D.text = decide (n < D.tree.depth) := by
  induction D generalizing n with
  | name m name =>
    unfold nestsBeyond
    simp [Derivation.text, splitMark_around m name.isBase, opensArray_identifier, Derivation.tree,
      depth]
  | array m w element ih =>
    -- Only brackets with something in between are counted, and a derivation has no empty text.
    have hinner : (trim element.text != []) = true :=
      bne_iff_ne.mpr (trim_ne_nil_of_parseChars (parseChars_text element))
    change nestsBeyond n (m.around (w.enclosing element.text)) = decide (n < element.tree.depth + 1)
    unfold nestsBeyond
    simp only [splitMark_around m (w.isBase_enclosing _), w.opensArray_enclosing,
      w.getLast?_enclosing, w.arrayInner_enclosing, hinner, decide_true, Bool.and_self, if_true]
    cases n with
    | zero => simp
    | succ n => simpa using ih n

theorem nestsBeyond_of_parse {t : String} {d : Descriptor} (h : parse t = .ok d) (n : Nat) :
    nestsBeyond n t.toList = decide (n < d.depth) := by
  obtain ⟨D, htext, rfl⟩ := exists_text_of_parse h
  rw [← htext, nestsBeyond_text]

/-! ### Reading and writing -/

/-- What is read can be written and read again: the canonical text stands for the same descriptor and
is nested no deeper than the text it came from. It has no blanks, encloses the text of the element
in brackets, and ends with the mark exactly where null is accepted; without the mark it is the text
of the descriptor that accepts no null. So descriptors that were read are told apart by their texts,
and every tree of type names is what its text is read as. -/
theorem canonical_text_stands_for :
    (∀ t d, parse t = .ok d →
      (parse d.text = .ok d ∧ ∀ n, nestsBeyond n d.text.toList = nestsBeyond n t.toList) ∧
      (∀ c ∈ d.text.toList, isBlank c = false) ∧
      (∀ element, d.element? = some element →
        d.text = "Array<" ++ element.text ++ ">" ++ nullMark d.nullable) ∧
      d.text = d.baseText ++ nullMark d.nullable ∧ parse d.baseText = .ok d.required) ∧
    (∀ t t' d d', parse t = .ok d → parse t' = .ok d' → (d = d' ↔ d.text = d'.text)) ∧
    ∀ d : Descriptor, d.isWellFormed = true ↔ parse d.text = .ok d := by
  refine ⟨?_, ?_, fun d => ⟨parse_text, isWellFormed_of_parse⟩⟩
  · intro t d h
    have hwell := isWellFormed_of_parse h
    have hagain := parse_text hwell
    refine ⟨⟨hagain, fun n => ?_⟩, ?_, ?_, text_eq_baseText d, ?_⟩
    · rw [nestsBeyond_of_parse hagain, nestsBeyond_of_parse h]
    · obtain ⟨D, -, rfl⟩ := exists_text_of_parse h
      exact D.not_blank_text_tree
    · intro element helement
      cases d with
      | named name nullable => cases helement
      | array inner nullable =>
        cases helement
        rfl
    · exact parse_text ((isWellFormed_required d).trans hwell)
  · intro t t' d d' h h'
    constructor
    · rintro rfl
      rfl
    · exact text_inj (isWellFormed_of_parse h) (isWellFormed_of_parse h')

theorem canonical_text_spacedArray :
    parse " aRRay< Item ?> ? " = .ok (.array (.named "Item" true) true) ∧
      parse "Array<Item?>?" = .ok (.array (.named "Item" true) true) ∧
      parse "Array<Item?>" = .ok (.array (.named "Item" true) false) := by
  have hread : parse " aRRay< Item ?> ? " = .ok (.array (.named "Item" true) true) :=
    parse_of_text spacedArray (by decide)
  obtain ⟨⟨hagain, -⟩, -, -, -, hrequired⟩ := canonical_text_stands_for.1 _ _ hread
  exact ⟨hread, hagain, hrequired⟩

end Descriptor

end TypedRecord
