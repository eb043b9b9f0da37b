/-!
# TypedRecord.Text.Fold

Comparison of names without regard to case.

`foldCase` is Unicode full case folding restricted to the characters whose folding lies inside
ASCII: the capital letters, the long s, the Kelvin sign, both sharp s and the Latin ligatures. Every
other character folds to something that holds a non-ASCII character, so for the question this library
asks — does a text fold to a given ASCII name? — leaving it alone gives the same answer.
-/

namespace TypedRecord.Text

/-- A small ASCII letter for a capital one. -/
def lowerAscii (c : Char) : Char := c.toLower

/-- The folding of one character. -/
def foldChar (c : Char) : List Char :=
  match c.toNat with
  | 0x17F => ['s']
  | 0x212A => ['k']
  | 0xDF | 0x1E9E => ['s', 's']
  | 0xFB00 => ['f', 'f']
  | 0xFB01 => ['f', 'i']
  | 0xFB02 => ['f', 'l']
  | 0xFB03 => ['f', 'f', 'i']
  | 0xFB04 => ['f', 'f', 'l']
  | 0xFB05 | 0xFB06 => ['s', 't']
  | _ => [lowerAscii c]

/-- The folding of a text. -/
def foldCase (s : List Char) : List Char := s.flatMap foldChar

/-- Two texts are the same up to case. -/
def sameFolded (a b : String) : Bool := foldCase a.toList == foldCase b.toList

@[simp] theorem sameFolded_refl (a : String) : sameFolded a a = true := by simp [sameFolded]

theorem sameFolded_comm (a b : String) : sameFolded a b = sameFolded b a := by
  simp [sameFolded, Bool.beq_comm]

/-- A text with its ASCII capitals made small. -/
def lower (s : String) : String := String.ofList (s.toList.map lowerAscii)

theorem foldChar_of_lt {c : Char} (h : c.toNat < 128) : foldChar c = [c.toLower] := by
  unfold foldChar
  split <;> first | omega | rfl

/-- A character folds to its small letter, unless it is a ligature or another letter's variant. -/
theorem foldChar_cases (c : Char) :
    foldChar c = [c.toLower] ∨
      ∃ a rest, foldChar c = a :: rest ∧ (a = 's' ∨ a = 'k' ∨ a = 'f') := by
  unfold foldChar
  split <;> simp [lowerAscii]

/-- Where neither `s` nor `k` nor `f` occurs, folding made letters small and did nothing else. -/
theorem map_toLower_of_foldCase {s w : List Char} (hw : ∀ a ∈ w, a ≠ 's' ∧ a ≠ 'k' ∧ a ≠ 'f')
    (h : foldCase s = w) : s.map Char.toLower = w := by
  induction s generalizing w with
  | nil => exact h
  | cons c s ih =>
    rw [foldCase, List.flatMap_cons] at h
    rcases foldChar_cases c with hc | ⟨a, rest, hc, ha⟩
    · rw [hc, List.singleton_append] at h
      subst h
      rw [List.map_cons, ih (fun a ha => hw a (List.mem_cons_of_mem _ ha)) rfl]
    · rw [hc, List.cons_append] at h
      have hne := hw a (by simp [← h])
      rcases ha with rfl | rfl | rfl <;> simp at hne

theorem foldCase_of_lt {s : List Char} (h : ∀ c ∈ s, c.toNat < 128) :
    foldCase s = s.map Char.toLower := by
  induction s with
  | nil => rfl
  | cons c s ih =>
    have hs := ih fun d hd => h d (by simp [hd])
    rw [foldCase, List.flatMap_cons, foldChar_of_lt (h c (by simp)), List.map_cons]
    exact congrArg (c.toLower :: ·) hs

/-- Only the capitals have another small letter, and it stands 32 places behind. -/
theorem toLower_cases (c : Char) :
    c.toLower = c ∨ (65 ≤ c.toNat ∧ c.toNat ≤ 90 ∧ c.toLower.toNat = c.toNat + 32) := by
  unfold Char.toLower
  split
  · next hc =>
    have hlow : 65 ≤ c.toNat := UInt32.le_iff_toNat_le.1 hc.1
    have hhigh : c.toNat ≤ 90 := UInt32.le_iff_toNat_le.1 hc.2
    have hsum : (c.val + 32).toNat = c.toNat + 32 := by
      rw [UInt32.toNat_add]
      exact Nat.mod_eq_of_lt (show c.toNat + 32 < 2 ^ 32 by omega)
    exact .inr ⟨hlow, hhigh, hsum⟩
  · exact .inl rfl

theorem toNat_lt_of_toLower {c : Char} (h : c.toLower.toNat < 128) : c.toNat < 128 := by
  rcases toLower_cases c with hc | hc
  · rwa [hc] at h
  · omega

end TypedRecord.Text
