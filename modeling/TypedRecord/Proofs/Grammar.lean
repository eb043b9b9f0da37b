import TypedRecord.Descriptor

/-!
# TypedRecord.Proofs.Grammar

The grammar of descriptors, and that reading follows it.

    descriptor := blank* base blank* ("?" blank*)?
    base       := name | "Array<" descriptor ">"

A `Derivation` is a derivation of this grammar, kept with every character it was written with:
`Derivation.text` is what it derives and `Derivation.tree` the descriptor it stands for. The reader
has no tokens: it trims, takes a mark from the end, compares the first six characters and goes on
with a slice. `parseChars_text` says that it reads every derivation, `exists_derivation` that it
reads nothing else, and `Derivation.text_inj` that no text has two derivations.
-/

namespace TypedRecord

open Text

namespace Descriptor

/-! ### The grammar -/

/-- A type name: a letter or underscore, then letters, digits, underscores and dots. -/
structure Identifier where
  first : Char
  rest : List Char
  first_ok : first.isAlpha = true ∨ first = '_'
  rest_ok : ∀ c ∈ rest, c.isAlphanum = true ∨ c = '_' ∨ c = '.'
  deriving DecidableEq

/-- The characters of a name. -/
def Identifier.text (n : Identifier) : List Char := n.first :: n.rest

/-- What a name stands for, ignoring the case of its letters. -/
def Identifier.category (n : Identifier) : Category :=
  let word := n.text.map Char.toLower
  if word = "array".toList then .untypedArray
  else if word = "dictionary".toList then .map
  else if word ∈ ["string", "int", "float", "bool", "bytes", "object"].map String.toList then
    .primitive
  else .reference

/-- The word that opens a typed array, in any case. -/
structure ArrayWord where
  text : List Char
  spells : text.map Char.toLower = "array".toList
  deriving DecidableEq

/-- What stands around a base: blanks, and perhaps the mark with the blanks after it. -/
structure Margin where
  front : Blanks
  back : Blanks
  mark : Option Blanks
  deriving DecidableEq

/-- The mark and what follows it. -/
def Margin.suffix (m : Margin) : List Char :=
  match m.mark with
  | none => []
  | some after => '?' :: after.text

/-- A base within its margin. -/
def Margin.around (m : Margin) (base : List Char) : List Char :=
  m.front.text ++ base ++ m.back.text ++ m.suffix

/-- A derivation of the grammar. -/
inductive Derivation
  | name (margin : Margin) (identifier : Identifier)
  | array (margin : Margin) (word : ArrayWord) (element : Derivation)
  deriving DecidableEq

namespace Derivation

/-- The text that is derived. -/
def text : Derivation → List Char
  | name m n => m.around n.text
  | array m word element => m.around (word.text ++ '<' :: element.text ++ ['>'])

/-- The descriptor that a derivation stands for. -/
def tree : Derivation → Descriptor
  | name m n => .named (String.ofList n.text) m.mark.isSome
  | array m _ element => .array element.tree m.mark.isSome

/-- What the grammar says about the descriptor that a derivation stands for: the mark makes it
nullable, brackets make it an array of what they enclose, and a bare name is sorted by its letters
and kept as it is where it names a primitive type or a schema. -/
def Describes : Derivation → Descriptor → Prop
  | name m n, d =>
    d.nullable = m.mark.isSome ∧ d.element? = none ∧ d.category = n.category ∧
      (n.category = .primitive ∨ n.category = .reference → d.name = String.ofList n.text)
  | array m _ element, d =>
    d.nullable = m.mark.isSome ∧ d.category = .array ∧
      ∃ inner, d.element? = some inner ∧ element.Describes inner

end Derivation

/-! ### Bases and their margins -/

/-- A base that can be told from its margin. -/
structure IsBase (base : List Char) : Prop extends IsTight base where
  unmarked : base.getLast? ≠ some '?'

theorem splitMark_around (m : Margin) {base : List Char} (hbase : IsBase base) :
    splitMark (trim (m.around base)) = (base, m.mark.isSome) := by
  unfold Margin.around Margin.suffix
  cases m.mark with
  | none =>
    rw [List.append_nil, trim_blanks m.front hbase.toIsTight m.back, splitMark,
      if_neg hbase.unmarked]
    rfl
  | some after =>
    have hmark : IsTight (base ++ m.back.text ++ ['?']) := by
      obtain ⟨c, rest, hopens, hc⟩ := hbase.opens
      exact ⟨⟨c, rest ++ m.back.text ++ ['?'], by simp [hopens], hc⟩, ⟨_, '?', rfl, by decide⟩⟩
    have htrim : trim (m.front.text ++ base ++ m.back.text ++ '?' :: after.text) =
        base ++ m.back.text ++ ['?'] := by
      rw [← trim_blanks m.front hmark after]
      simp
    obtain ⟨init, d, hcloses, hd⟩ := hbase.closes
    have hback : trimBack (base ++ m.back.text) = base := by
      rw [hcloses]
      exact trimBack_blanks hd init m.back
    rw [htrim, splitMark, if_pos (by simp), List.dropLast_concat, hback]
    rfl

theorem exists_around (s : List Char) :
    ∃ m : Margin, s = m.around (splitMark (trim s)).1 ∧ m.mark.isSome = (splitMark (trim s)).2 := by
  obtain ⟨front, hfront⟩ := exists_trimFront s
  obtain ⟨back, hback⟩ := exists_trimBack (trimFront s)
  have hs : s = front.text ++ trim s ++ back.text := by
    rw [List.append_assoc, trim, ← hback, ← hfront]
  unfold splitMark
  split
  · next hlast =>
    obtain ⟨init, hinit⟩ := List.getLast?_eq_some_iff.1 hlast
    obtain ⟨gap, hgap⟩ := exists_trimBack (trim s).dropLast
    have hdrop : trim s = (trim s).dropLast ++ ['?'] := by rw [hinit, List.dropLast_concat]
    refine ⟨⟨front, gap, some back⟩, ?_, rfl⟩
    calc s = front.text ++ ((trim s).dropLast ++ ['?']) ++ back.text := by rw [← hdrop, ← hs]
      _ = front.text ++ (trimBack (trim s).dropLast ++ gap.text ++ ['?']) ++ back.text := by
        rw [← hgap]
      _ = _ := by simp [Margin.around, Margin.suffix]
  · exact ⟨⟨front, back, none⟩, by simpa [Margin.around, Margin.suffix] using hs, rfl⟩

theorem around_inj {m m' : Margin} {base base' : List Char} (hbase : IsBase base)
    (hbase' : IsBase base') (h : m.around base = m'.around base') : m = m' ∧ base = base' := by
  have hsplit : (base, m.mark.isSome) = (base', m'.mark.isSome) := by
    rw [← splitMark_around m hbase, h, splitMark_around m' hbase']
  obtain ⟨rfl, hmark⟩ := Prod.mk.inj hsplit
  obtain ⟨c, rest, hopens, hc⟩ := hbase.opens
  have hfront : m.front = m'.front ∧ base ++ (m.back.text ++ m.suffix) =
      base ++ (m'.back.text ++ m'.suffix) := by
    simp only [Margin.around, List.append_assoc] at h
    rw [hopens] at h ⊢
    exact blanks_append_inj hc hc h
  have hrear := List.append_cancel_left hfront.2
  obtain ⟨front, back, mark⟩ := m
  obtain ⟨front', back', mark'⟩ := m'
  obtain rfl : front = front' := hfront.1
  have hq : isBlank '?' = false := by decide
  have hboth : back = back' ∧ mark = mark' := by
    cases mark with
    | none =>
      cases mark' with
      | none => exact ⟨Blanks.ext (by simpa [Margin.suffix] using hrear), rfl⟩
      | some after' => cases hmark
    | some after =>
      cases mark' with
      | none => cases hmark
      | some after' =>
        obtain ⟨hback, hafter⟩ := blanks_append_inj hq hq hrear
        exact ⟨hback, congrArg some (Blanks.ext (List.cons.inj hafter).2)⟩
  rw [hboth.1, hboth.2]
  exact ⟨rfl, rfl⟩

/-! ### Names -/

/-- Where the characters of a name stand among all characters. -/
theorem toNat_of_namePart {c : Char} (h : c.isAlphanum = true ∨ c = '_' ∨ c = '.') :
    c.toNat = 46 ∨ (48 ≤ c.toNat ∧ c.toNat ≤ 57) ∨ (65 ≤ c.toNat ∧ c.toNat ≤ 90) ∨
      c.toNat = 95 ∨ (97 ≤ c.toNat ∧ c.toNat ≤ 122) := by
  rcases h with h | rfl | rfl
  · change ((decide (c.val ≥ 'A'.val ∧ c.val ≤ 'Z'.val) ||
      (decide (c.val ≥ 'a'.val) && decide (c.val ≤ 'z'.val))) ||
        (decide (c.val ≥ '0'.val) && decide (c.val ≤ '9'.val))) = true at h
    simp only [Bool.or_eq_true, Bool.and_eq_true, decide_eq_true_eq, UInt32.le_iff_toNat_le,
      ge_iff_le] at h
    change (((65 ≤ c.toNat ∧ c.toNat ≤ 90) ∨ 97 ≤ c.toNat ∧ c.toNat ≤ 122) ∨
      48 ≤ c.toNat ∧ c.toNat ≤ 57) at h
    omega
  · exact .inr (.inr (.inr (.inl (by decide))))
  · exact .inl (by decide)

theorem Identifier.part_ok (n : Identifier) :
    ∀ c ∈ n.text, c.isAlphanum = true ∨ c = '_' ∨ c = '.' := by
  intro c hc
  rcases List.mem_cons.1 hc with rfl | hc
  · rcases n.first_ok with h | h
    · exact .inl (by simp [Char.isAlphanum, h])
    · exact .inr (.inl h)
  · exact n.rest_ok c hc

theorem Identifier.toNat_lt (n : Identifier) : ∀ c ∈ n.text, c.toNat < 128 := by
  intro c hc
  have := toNat_of_namePart (n.part_ok c hc)
  omega

theorem Identifier.not_blank (n : Identifier) : ∀ c ∈ n.text, isBlank c = false := by
  intro c hc
  have := toNat_of_namePart (n.part_ok c hc)
  simp [isBlank]
  omega

theorem Identifier.not_mem (n : Identifier) {c : Char} (hc : c = '?' ∨ c = '<') : c ∉ n.text := by
  intro hmem
  have := toNat_of_namePart (n.part_ok c hmem)
  rcases hc with rfl | rfl <;> simp at this

theorem Identifier.isBase (n : Identifier) : IsBase n.text := by
  obtain ⟨init, c, hc⟩ : ∃ init c, n.text = init ++ [c] :=
    ⟨_, _, (List.dropLast_concat_getLast (List.cons_ne_nil n.first n.rest)).symm⟩
  refine ⟨⟨⟨n.first, n.rest, rfl, n.not_blank _ (by simp [Identifier.text])⟩,
    ⟨init, c, hc, n.not_blank c (by simp [hc])⟩⟩, ?_⟩
  intro h
  exact n.not_mem (.inl rfl) (List.mem_of_getLast? h)

theorem isName_iff (s : List Char) : isName s = true ↔ ∃ n : Identifier, n.text = s := by
  cases s with
  | nil => simp [isName, Identifier.text]
  | cons c rest =>
    simp only [isName, isNameStart, isNamePart, Bool.and_eq_true, Bool.or_eq_true, beq_iff_eq,
      List.all_eq_true, or_assoc]
    constructor
    · rintro ⟨hfirst, hrest⟩
      exact ⟨⟨c, rest, hfirst, hrest⟩, rfl⟩
    · rintro ⟨n, hn⟩
      obtain ⟨rfl, rfl⟩ := List.cons.inj hn
      exact ⟨n.first_ok, n.rest_ok⟩

theorem Identifier.text_inj {n n' : Identifier} (h : n.text = n'.text) : n = n' := by
  cases n
  cases n'
  obtain ⟨rfl, rfl⟩ := List.cons.inj h
  rfl

theorem Identifier.categoryOfName_eq (n : Identifier) :
    categoryOfName (String.ofList n.text) = n.category := by
  have hfold (w : String) : sameFolded (String.ofList n.text) w =
      (n.text.map Char.toLower == foldCase w.toList) := by
    rw [sameFolded, String.toList_ofList, foldCase_of_lt n.toNat_lt]
  have harray : foldCase arrayName.toList = "array".toList := by decide
  have hmap : foldCase mapName.toList = "dictionary".toList := by decide
  have hprimitive : primitiveNames.map (foldCase ∘ String.toList) =
      ["string", "int", "float", "bool", "bytes", "object"].map String.toList := by decide
  have hany : primitiveNames.any (sameFolded (String.ofList n.text)) = true ↔
      n.text.map Char.toLower ∈
        ["string", "int", "float", "bool", "bytes", "object"].map String.toList := by
    rw [← hprimitive, List.any_eq_true, List.mem_map]
    simp only [hfold, beq_iff_eq, Function.comp]
    exact exists_congr fun _ => and_congr_right fun _ => eq_comm
  simp only [categoryOfName, Identifier.category, hany]
  simp only [hfold, harray, hmap, beq_iff_eq]

/-! ### Opening brackets -/

theorem ArrayWord.length_text (w : ArrayWord) : w.text.length = 5 := by
  have := congrArg List.length w.spells
  simpa using this

theorem ArrayWord.toLower_mem (w : ArrayWord) {c : Char} (hc : c ∈ w.text) :
    c.toLower ∈ "array".toList := by
  rw [← w.spells]
  exact List.mem_map_of_mem hc

theorem ArrayWord.toNat_lt (w : ArrayWord) : ∀ c ∈ w.text, c.toNat < 128 := by
  intro c hc
  have hsmall : ∀ a ∈ "array".toList, a.toNat < 128 := by simp
  exact toNat_lt_of_toLower (hsmall _ (w.toLower_mem hc))

theorem ArrayWord.text_inj {w w' : ArrayWord} (h : w.text = w'.text) : w = w' := by
  cases w
  cases w'
  cases h
  rfl

/-- Only the bracket itself has the bracket for its small letter. -/
theorem eq_bracket_of_toLower {c : Char} (h : c.toLower = '<') : c = '<' := by
  rcases toLower_cases c with hc | ⟨hlow, -, hc⟩
  · exact hc.symm.trans h
  · rw [h] at hc
    change 60 = _ at hc
    omega

theorem opensArray_iff (base : List Char) :
    opensArray base = true ↔ ∃ (w : ArrayWord) (rest : List Char), base = w.text ++ '<' :: rest := by
  rw [opensArray, beq_iff_eq]
  constructor
  · intro h
    -- None of the six letters is one that a ligature or a variant folds to.
    have hlower := map_toLower_of_foldCase (by simp) h
    obtain ⟨word, bracket, htake, hword, hbracket⟩ := List.map_eq_append_iff.1
      (hlower.trans (show "array<".toList = "array".toList ++ ['<'] by decide))
    obtain ⟨c, rfl, hc⟩ : ∃ c, bracket = [c] ∧ c.toLower = '<' := by
      simpa [List.map_eq_singleton_iff] using hbracket
    rw [eq_bracket_of_toLower hc] at htake
    refine ⟨⟨word, hword⟩, base.drop 6, ?_⟩
    rw [← List.singleton_append, ← List.append_assoc, ← htake, List.take_append_drop]
  · rintro ⟨w, rest, rfl⟩
    have htake : (w.text ++ '<' :: rest).take 6 = w.text ++ ['<'] := by
      rw [List.take_append, w.length_text]
      simp [List.take_of_length_le, w.length_text]
    have hlt : ∀ c ∈ w.text ++ ['<'], c.toNat < 128 := by
      intro c hc
      rcases List.mem_append.1 hc with hc | hc
      · exact w.toNat_lt c hc
      · rw [List.mem_singleton.1 hc]
        decide
    rw [htake, foldCase_of_lt hlt, List.map_append, w.spells]
    decide

theorem opensArray_identifier (n : Identifier) : opensArray n.text = false := by
  rw [Bool.eq_false_iff, Ne, opensArray_iff]
  rintro ⟨w, rest, h⟩
  exact n.not_mem (.inr rfl) (by simp [h])

/-! ### Typed arrays as bases -/

/-- A typed array as it is written. -/
def ArrayWord.enclosing (w : ArrayWord) (inner : List Char) : List Char :=
  w.text ++ '<' :: inner ++ ['>']

theorem ArrayWord.isBase_enclosing (w : ArrayWord) (inner : List Char) :
    IsBase (w.enclosing inner) := by
  obtain ⟨c, rest, hc⟩ := List.exists_cons_of_length_pos (l := w.text) (by simp [w.length_text])
  have hblank : isBlank c = false := by
    have hword : ∀ a ∈ "array".toList, 97 ≤ a.toNat ∧ a.toNat ≤ 122 := by simp
    have hsmall := hword _ (w.toLower_mem (c := c) (by simp [hc]))
    rw [Bool.eq_false_iff]
    rcases toLower_cases c with hlower | hlower <;> simp [isBlank] <;> grind
  refine ⟨⟨⟨c, rest ++ '<' :: inner ++ ['>'], by simp [enclosing, hc], hblank⟩,
    ⟨_, '>', rfl, by decide⟩⟩, ?_⟩
  rw [enclosing, List.getLast?_concat]
  decide

theorem ArrayWord.opensArray_enclosing (w : ArrayWord) (inner : List Char) :
    opensArray (w.enclosing inner) = true :=
  (opensArray_iff _).2 ⟨w, inner ++ ['>'], by simp [enclosing]⟩

theorem ArrayWord.getLast?_enclosing (w : ArrayWord) (inner : List Char) :
    (w.enclosing inner).getLast? = some '>' := List.getLast?_concat

theorem ArrayWord.arrayInner_enclosing (w : ArrayWord) (inner : List Char) :
    arrayInner (w.enclosing inner) = inner := by
  have hdrop : (w.enclosing inner).drop 6 = inner ++ ['>'] := by
    rw [enclosing, List.append_assoc, List.drop_append, w.length_text,
      List.drop_of_length_le (by simp [w.length_text])]
    rfl
  rw [arrayInner, hdrop, List.dropLast_concat]

theorem ArrayWord.enclosing_inj {w w' : ArrayWord} {inner inner' : List Char}
    (h : w.enclosing inner = w'.enclosing inner') : w = w' ∧ inner = inner' := by
  have hinner : inner = inner' := by
    rw [← w.arrayInner_enclosing inner, h, w'.arrayInner_enclosing]
  subst hinner
  simp only [enclosing, List.append_assoc] at h
  exact ⟨ArrayWord.text_inj (List.append_cancel_right h), rfl⟩

/-- What opens a typed array and ends with the closing bracket encloses something. -/
theorem exists_enclosing {base : List Char} (hopens : opensArray base = true)
    (hcloses : base.getLast? = some '>') :
    ∃ w : ArrayWord, base = w.enclosing (arrayInner base) := by
  obtain ⟨w, rest, rfl⟩ := (opensArray_iff base).1 hopens
  -- The opening bracket is not the closing one, so there is something behind it.
  obtain ⟨inner, rfl⟩ : ∃ inner, rest = inner ++ ['>'] := by
    rcases List.eq_nil_or_concat rest with rfl | ⟨inner, c, rfl⟩
    · rw [List.getLast?_concat] at hcloses
      exact absurd (Option.some.inj hcloses) (by decide)
    · rw [List.concat_eq_append, ← List.cons_append, ← List.append_assoc,
        List.getLast?_concat] at hcloses
      exact ⟨inner, by rw [Option.some.inj hcloses, List.concat_eq_append]⟩
  have henclosing : w.text ++ '<' :: (inner ++ ['>']) = w.enclosing inner := by simp [ArrayWord.enclosing]
  exact ⟨w, by rw [henclosing, w.arrayInner_enclosing]⟩

/-! ### Reading -/

theorem parseChars_around (m : Margin) {base : List Char} (hbase : IsBase base) :
    parseChars (m.around base) =
      if opensArray base then
        if base.getLast? ≠ some '>' then .error .unbalancedArray
        else if trim (arrayInner base) = [] then .error .missingElement
        else do
          let element ← parseChars (arrayInner base)
          pure (.array element m.mark.isSome)
      else if isName base then pure (.named (String.ofList base) m.mark.isSome)
      else .error (.notAName (String.ofList base)) := by
  have hne : base ≠ [] := by
    obtain ⟨c, rest, rfl, -⟩ := hbase.opens
    simp
  have hsplit := splitMark_around m hbase
  have htrim : trim (m.around base) ≠ [] := by
    intro h
    rw [h] at hsplit
    exact hne (congrArg Prod.fst hsplit).symm
  rw [parseChars]
  simp only [if_neg htrim, hsplit, dif_neg hne, if_neg hbase.unmarked]

theorem trim_ne_nil_of_parseChars {s : List Char} {d : Descriptor} (h : parseChars s = .ok d) :
    trim s ≠ [] := by
  intro htrim
  rw [parseChars, if_pos htrim] at h
  cases h

/-- Every derivation is read as what it stands for. -/
theorem parseChars_text (D : Derivation) : parseChars D.text = .ok D.tree := by
  induction D with
  | name m n =>
    have hname : isName n.text = true := (isName_iff n.text).2 ⟨n, rfl⟩
    rw [Derivation.text, parseChars_around m n.isBase, opensArray_identifier, hname]
    rfl
  | array m w element ih =>
    change parseChars (m.around (w.enclosing element.text)) = _
    rw [parseChars_around m (w.isBase_enclosing _), if_pos (w.opensArray_enclosing _),
      if_neg (not_not_intro (w.getLast?_enclosing _)), w.arrayInner_enclosing,
      if_neg (trim_ne_nil_of_parseChars ih), ih]
    rfl

/-- Whatever is read has a derivation. -/
theorem exists_derivation {s : List Char} {d : Descriptor} (h : parseChars s = .ok d) :
    ∃ D : Derivation, D.text = s := by
  fun_induction parseChars s generalizing d with
  | case1 | case2 | case3 | case4 | case5 | case8 => cases h
  | case6 s raw _ base nullable _ _ hopens hcloses _ =>
    rename_i ih
    cases helement : parseChars (arrayInner base) with
    | error fault => rw [helement] at h; cases h
    | ok element =>
      obtain ⟨m, hm, -⟩ := exists_around s
      obtain ⟨w, hw⟩ := exists_enclosing hopens (Decidable.not_not.1 hcloses)
      obtain ⟨D, hD⟩ := ih helement
      refine ⟨.array m w D, ?_⟩
      change m.around (w.enclosing D.text) = s
      rw [hD, ← hw, ← hm]
  | case7 s raw _ base nullable _ _ _ =>
    rename_i hname
    obtain ⟨m, hm, -⟩ := exists_around s
    obtain ⟨n, hn⟩ := (isName_iff base).1 hname
    refine ⟨.name m n, ?_⟩
    rw [Derivation.text, hn, ← hm]

/-- No text has two derivations. -/
theorem Derivation.text_inj {D D' : Derivation} (h : D.text = D'.text) : D = D' := by
  induction D generalizing D' with
  | name m n =>
    cases D' with
    | name m' n' =>
      obtain ⟨rfl, htext⟩ := around_inj n.isBase n'.isBase h
      rw [Identifier.text_inj htext]
    | array m' w element =>
      obtain ⟨-, htext⟩ := around_inj n.isBase (w.isBase_enclosing element.text) h
      exact absurd (by simp [htext, ArrayWord.enclosing]) (n.not_mem (.inr rfl))
  | array m w element ih =>
    cases D' with
    | name m' n =>
      obtain ⟨-, htext⟩ := around_inj (w.isBase_enclosing element.text) n.isBase h
      exact absurd (by simp [← htext, ArrayWord.enclosing]) (n.not_mem (.inr rfl))
    | array m' w' element' =>
      obtain ⟨rfl, hbase⟩ := around_inj (w.isBase_enclosing element.text)
        (w'.isBase_enclosing element'.text) h
      obtain ⟨rfl, htext⟩ := ArrayWord.enclosing_inj hbase
      rw [ih htext]

theorem Derivation.describes_tree (D : Derivation) : D.Describes D.tree := by
  induction D with
  | name m n =>
    refine ⟨rfl, rfl, n.categoryOfName_eq, ?_⟩
    rw [← n.categoryOfName_eq]
    rintro (h | h) <;> simp [tree, Descriptor.name, h]
  | array m w element ih => exact ⟨rfl, rfl, element.tree, rfl, ih⟩

/-- A text is a descriptor exactly when the grammar derives it, which it does in one way only, and
it is read as what that derivation stands for. Every other text is refused, as a whole. -/
theorem parse_follows_grammar (t : String) :
    ((∃ d, parse t = .ok d) ↔ ∃ D : Derivation, D.text = t.toList) ∧
    (∀ D : Derivation, D.text = t.toList →
      parse t = .ok D.tree ∧ D.Describes D.tree ∧ ∀ D' : Derivation, D'.text = t.toList → D' = D) ∧
    ((¬ ∃ D : Derivation, D.text = t.toList) → ∃ fault, parse t = .error ⟨t, fault⟩) := by
  have hread (D : Derivation) (hD : D.text = t.toList) : parse t = .ok D.tree := by
    rw [parse, ← hD, parseChars_text]
  have hsound (d : Descriptor) (hd : parse t = .ok d) : ∃ D : Derivation, D.text = t.toList := by
    cases hchars : parseChars t.toList with
    | ok d' => exact exists_derivation hchars
    | error fault => rw [parse, hchars] at hd; cases hd
  refine ⟨⟨?_, ?_⟩, ?_, ?_⟩
  · rintro ⟨d, hd⟩
    exact hsound d hd
  · rintro ⟨D, hD⟩
    exact ⟨D.tree, hread D hD⟩
  · intro D hD
    exact ⟨hread D hD, D.describes_tree, fun D' hD' => Derivation.text_inj (hD'.trans hD.symm)⟩
  · intro hnone
    cases hchars : parseChars t.toList with
    | ok d => exact absurd (exists_derivation hchars) hnone
    | error fault => exact ⟨fault, by rw [parse, hchars]⟩

/-- One space. -/
def oneSpace : Blanks := ⟨[' '], List.forall_mem_singleton.mpr rfl⟩

/-- No blank at all. -/
def noBlanks : Blanks := ⟨[], List.forall_mem_nil _⟩

/-- A nullable array of nullable items, with blanks wherever they may stand. -/
def spacedArray : Derivation :=
  .array ⟨oneSpace, oneSpace, some oneSpace⟩ ⟨"aRRay".toList, by decide⟩
    (.name ⟨oneSpace, oneSpace, some noBlanks⟩ ⟨'I', "tem".toList, by decide,
      fun c hc => .inl (List.all_eq_true.mp (by decide) c hc)⟩)

theorem parseChars_detachedBracket :
    parseChars "Array <int>".toList = .error (.notAName "Array <int>") := by
  rw [parseChars]
  rfl

theorem parse_spacedArray :
    parse " aRRay< Item ?> ? " = .ok (.array (.named "Item" true) true) ∧
      ∃ fault, parse "Array <int>" = .error ⟨"Array <int>", fault⟩ := by
  refine ⟨((parse_follows_grammar _).2.1 spacedArray (by decide)).1,
    (parse_follows_grammar _).2.2 ?_⟩
  rintro ⟨D, hD⟩
  have hread := parseChars_text D
  rw [hD, parseChars_detachedBracket] at hread
  cases hread

end Descriptor

end TypedRecord
