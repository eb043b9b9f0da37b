/-!
# TypedRecord.Text.CodePoint

Texts as code points.

A text may be written with escapes that name half of a surrogate pair. Such a *lone unit* is a code
point and no character, and yet texts hold it, show it by its number and give it back. Texts are kept
as strings all the same: a string *spells* code points.

* A lone unit is spelled by a stand-in, the character of the same last four digits in plane 13, of
  which no character is ever assigned.
* A character that would be taken for a stand-in is spelled behind a sign, and so is the sign.
* Every other character spells itself.

Whatever counts, cuts, orders or shows a text goes by `Text.points`, the code points that it spells.
Every list of code points is spelled (`points_spellAll_append`), so nothing is lost.
-/

namespace TypedRecord.Text

/-- Whether a number is that of a surrogate. -/
def isSurrogate (n : Nat) : Bool := 0xD800 ≤ n && n ≤ 0xDFFF

/-- The plane in which the stand-ins are. -/
def standInPlane : Nat := 0xD0000

/-- The sign behind which a character is itself and no stand-in. -/
def literalSign : Char := Char.ofNat standInPlane

/-- The lone unit that a character stands in for. -/
def loneUnit? (c : Char) : Option Nat :=
  if standInPlane ≤ c.toNat ∧ isSurrogate (c.toNat - standInPlane) then some (c.toNat - standInPlane)
  else none

/-- Whether a character that is to be itself needs the sign. -/
def needsSign (c : Char) : Bool := c == literalSign || (loneUnit? c).isSome

/-- A character, spelled. -/
def spellChar (c : Char) : List Char := if needsSign c then [literalSign, c] else [c]

/-- A code point, spelled. -/
def spell (n : Nat) : List Char :=
  if isSurrogate n then [Char.ofNat (standInPlane + n)] else spellChar (Char.ofNat n)

/-- The code points that characters spell. -/
def points : List Char → List Nat
  | [] => []
  | c :: rest =>
    if c = literalSign then
      match rest with
      | [] => []
      | d :: rest => d.toNat :: points rest
    else (loneUnit? c).getD c.toNat :: points rest

/-- Code points, spelled. -/
def spellAll (ns : List Nat) : List Char := ns.flatMap spell

/-- The text of characters that stand for themselves. -/
def ofChars (cs : List Char) : String := String.ofList (cs.flatMap spellChar)

/-- The text of code points. -/
def ofPoints (ns : List Nat) : String := String.ofList (spellAll ns)

/-- The code points of a text. -/
def pointsOf (s : String) : List Nat := points s.toList

/-- The number of code points of a text. -/
def length (s : String) : Nat := (pointsOf s).length

/-- A text up to a number of code points. -/
def take (n : Nat) (s : String) : String := ofPoints ((pointsOf s).take n)

/-- Whether the first of two texts comes first in the order of code points. -/
def precedes (s t : String) : Bool := pointsOf s < pointsOf t

/-- Whether the first of two texts does not come after the second. -/
def upTo (s t : String) : Bool := !precedes t s

/-! ### Spelling loses nothing -/

theorem isSurrogate_iff {n : Nat} : isSurrogate n = true ↔ 0xD800 ≤ n ∧ n ≤ 0xDFFF := by
  simp [isSurrogate]

/-- The characters have all numbers below the last one but those of surrogates. -/
theorem toNat_ofNat {n : Nat} (h : n < 0x110000) (hs : isSurrogate n = false) :
    (Char.ofNat n).toNat = n := by
  have hs' : ¬(0xD800 ≤ n ∧ n ≤ 0xDFFF) := by simp [← isSurrogate_iff, hs]
  have valid : n.isValidChar := by unfold Nat.isValidChar; omega
  rw [Char.ofNat, dif_pos valid]
  rfl

/-- A stand-in stands for its unit. -/
theorem loneUnit?_standIn {n : Nat} (h : isSurrogate n = true) :
    loneUnit? (Char.ofNat (standInPlane + n)) = some n := by
  have bounds := isSurrogate_iff.1 h
  have number : (Char.ofNat (standInPlane + n)).toNat = standInPlane + n :=
    toNat_ofNat (by unfold standInPlane; omega) (by
      rw [← Bool.not_eq_true, isSurrogate_iff]; unfold standInPlane; omega)
  simp [loneUnit?, number, h]

/-- The sign is no stand-in. -/
theorem loneUnit?_literalSign : loneUnit? literalSign = none := by decide

theorem points_sign (c : Char) (rest : List Char) :
    points (literalSign :: c :: rest) = c.toNat :: points rest := by simp [points]

theorem points_cons {c : Char} (h : c ≠ literalSign) (rest : List Char) :
    points (c :: rest) = (loneUnit? c).getD c.toNat :: points rest := by
  cases rest <;> simp [points, h]

/-- What spells a code point is read as that code point, whatever comes after it. -/
theorem points_spell {n : Nat} (h : n < 0x110000) (rest : List Char) :
    points (spell n ++ rest) = n :: points rest := by
  unfold spell
  by_cases hs : isSurrogate n = true
  · have unit := loneUnit?_standIn hs
    have other : Char.ofNat (standInPlane + n) ≠ literalSign := by
      intro same
      rw [same, loneUnit?_literalSign] at unit
      cases unit
    simp [hs, points_cons other, unit]
  · have number := toNat_ofNat h (by simpa using hs)
    simp only [hs, Bool.false_eq_true, if_false, spellChar]
    by_cases hn : needsSign (Char.ofNat n) = true
    · simp [hn, points_sign, number]
    · have plain : Char.ofNat n ≠ literalSign ∧ loneUnit? (Char.ofNat n) = none := by
        simpa [needsSign] using hn
      simp [hn, points_cons plain.1, plain.2, number]

/-- What spells code points is read as those code points, whatever comes after it. -/
theorem points_spellAll_append {ns : List Nat} (h : ∀ n ∈ ns, n < 0x110000) (rest : List Char) :
    points (spellAll ns ++ rest) = ns ++ points rest := by
  induction ns with
  | nil => rfl
  | cons n ns ih =>
    have more := ih fun m hm => h m (List.mem_cons_of_mem n hm)
    simp only [spellAll, List.flatMap_cons] at more ⊢
    rw [List.append_assoc, points_spell (h n List.mem_cons_self), more, List.cons_append]

/-- No character has a higher number. -/
theorem toNat_lt (c : Char) : c.toNat < 0x110000 := by
  have hvalid := c.valid
  simp only [UInt32.isValidChar, Nat.isValidChar] at hvalid
  show c.val.toNat < _
  omega

/-- A stand-in has a higher number than its unit. -/
theorem loneUnit?_getD_le (c : Char) : (loneUnit? c).getD c.toNat ≤ c.toNat := by
  cases h : loneUnit? c with
  | none => exact Nat.le_refl _
  | some n =>
    have hn : c.toNat - standInPlane = n := by
      unfold loneUnit? at h
      split at h
      · exact Option.some.inj h
      · cases h
    rw [Option.getD_some, ← hn]
    exact Nat.sub_le _ _

/-- So only what can be spelled is read. -/
theorem lt_of_mem_points {cs : List Char} : ∀ n ∈ points cs, n < 0x110000 := by
  induction cs using points.induct with
  | case1 => simp [points]
  | case2 => simp [points]
  | case3 c rest ih =>
    rw [points_sign]
    exact List.forall_mem_cons.mpr ⟨toNat_lt c, ih⟩
  | case4 c rest hc ih =>
    rw [points_cons hc]
    exact List.forall_mem_cons.mpr ⟨Nat.lt_of_le_of_lt (loneUnit?_getD_le c) (toNat_lt c), ih⟩

/-! ### Texts that are no characters -/

/-- What keeps a text from being written as bytes: lone units that stand together, with the number of
the first one and its place. -/
structure EncodingFault where
  number : Nat
  offset : Nat
  length : Nat
  deriving DecidableEq, Inhabited, Repr

/-- What comes first of what keeps code points from being written as bytes. -/
def encodingFaultAmong? (ns : List Nat) : Option EncodingFault :=
  match ns.dropWhile fun n => !isSurrogate n with
  | [] => none
  | n :: rest => some ⟨n, ns.length - (rest.length + 1), (rest.takeWhile isSurrogate).length + 1⟩

/-- What comes first of what keeps a text from being written as bytes. -/
def encodingFault? (s : String) : Option EncodingFault := encodingFaultAmong? (pointsOf s)

/-- Whether a text can be written as bytes. -/
def isEncodable (s : String) : Bool := (encodingFault? s).isNone

/-- A text with every lone unit replaced, by as many replacement characters as it would take bytes. -/
def withUnitsReplaced (s : String) : String :=
  ofPoints ((pointsOf s).flatMap fun n => if isSurrogate n then List.replicate 3 0xFFFD else [n])

/-- The characters of a text; lone units are none and left out. -/
def charsOf (s : String) : List Char :=
  ((pointsOf s).filter fun n => !isSurrogate n).map Char.ofNat

end TypedRecord.Text
