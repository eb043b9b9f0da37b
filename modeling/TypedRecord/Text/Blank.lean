/-!
# TypedRecord.Text.Blank

Blank characters and trimming.

A character is blank when it separates words in running text: the space separators and the line and
paragraph separators of Unicode, the ASCII control characters from tab to carriage return, the four
information separators and the C1 next-line character. This is wider than `Char.isWhitespace`, which
knows four ASCII characters only.
-/

namespace TypedRecord.Text

/-- Whether a character is blank. -/
def isBlank (c : Char) : Bool :=
  let n := c.toNat
  (9 ≤ n && n ≤ 13) || (28 ≤ n && n ≤ 32) || n == 0x85 || n == 0xA0 || n == 0x1680 ||
    (0x2000 ≤ n && n ≤ 0x200A) || n == 0x2028 || n == 0x2029 || n == 0x202F || n == 0x205F ||
    n == 0x3000

/-- Blanks removed from the front. -/
def trimFront (s : List Char) : List Char := s.dropWhile isBlank

/-- Blanks removed from the back. -/
def trimBack (s : List Char) : List Char := (s.reverse.dropWhile isBlank).reverse

/-- Blanks removed from both ends. -/
def trim (s : List Char) : List Char := trimBack (trimFront s)

/-- Whether a character may stand around a number: blanks may, the information separators may not. -/
def isNumberBlank (c : Char) : Bool := isBlank c && !(28 ≤ c.toNat && c.toNat ≤ 31)

/-- A number without what may stand around it. -/
def trimNumber (s : List Char) : List Char :=
  ((s.dropWhile isNumberBlank).reverse.dropWhile isNumberBlank).reverse

/-- Trimming never lengthens. -/
theorem length_dropWhile_le (p : Char → Bool) (s : List Char) :
    (s.dropWhile p).length ≤ s.length := by
  induction s with
  | nil => simp
  | cons c s ih =>
    by_cases h : p c = true
    · simp only [List.dropWhile_cons, h, if_true, List.length_cons]; omega
    · simp [h]

theorem length_trimFront_le (s : List Char) : (trimFront s).length ≤ s.length :=
  length_dropWhile_le _ s

theorem length_trimBack_le (s : List Char) : (trimBack s).length ≤ s.length := by
  simpa [trimBack] using length_dropWhile_le isBlank s.reverse

theorem length_trim_le (s : List Char) : (trim s).length ≤ s.length :=
  Nat.le_trans (length_trimBack_le _) (length_trimFront_le _)

/-! ### What trimming leaves -/

/-- A run of blanks, possibly empty. -/
@[ext] structure Blanks where
  text : List Char
  blank : ∀ c ∈ text, isBlank c = true
  deriving DecidableEq

/-- A text that neither starts nor ends with a blank and is not empty. -/
structure IsTight (s : List Char) : Prop where
  opens : ∃ c rest, s = c :: rest ∧ isBlank c = false
  closes : ∃ rest c, s = rest ++ [c] ∧ isBlank c = false

theorem trimFront_blanks (front : Blanks) {c : Char} (hc : isBlank c = false) (rest : List Char) :
    trimFront (front.text ++ c :: rest) = c :: rest := by
  rw [trimFront, List.dropWhile_append_of_pos front.blank]
  exact List.dropWhile_cons_of_neg (by simp [hc])

theorem trimBack_blanks {c : Char} (hc : isBlank c = false) (rest : List Char) (back : Blanks) :
    trimBack (rest ++ [c] ++ back.text) = rest ++ [c] := by
  have hback : ∀ c ∈ back.text.reverse, isBlank c = true := fun c h =>
    back.blank c (List.mem_reverse.1 h)
  rw [trimBack, List.reverse_append, List.dropWhile_append_of_pos hback, List.reverse_append,
    List.reverse_singleton, List.singleton_append, List.dropWhile_cons_of_neg (by simp [hc])]
  simp

theorem trim_blanks (front : Blanks) {s : List Char} (hs : IsTight s) (back : Blanks) :
    trim (front.text ++ s ++ back.text) = s := by
  obtain ⟨c, rest, hopens, hc⟩ := hs.opens
  obtain ⟨init, d, hcloses, hd⟩ := hs.closes
  have hfront : trimFront (front.text ++ s ++ back.text) = s ++ back.text := by
    rw [List.append_assoc, hopens, List.cons_append]
    exact trimFront_blanks front hc _
  rw [trim, hfront, hcloses]
  exact trimBack_blanks hd init back

theorem exists_trimFront (s : List Char) : ∃ front : Blanks, s = front.text ++ trimFront s :=
  ⟨⟨s.takeWhile isBlank, List.all_eq_true.1 List.all_takeWhile⟩,
    List.takeWhile_append_dropWhile.symm⟩

theorem exists_trimBack (s : List Char) : ∃ back : Blanks, s = trimBack s ++ back.text := by
  obtain ⟨back, h⟩ := exists_trimFront s.reverse
  refine ⟨⟨back.text.reverse, fun c hc => back.blank c (List.mem_reverse.1 hc)⟩, ?_⟩
  have := congrArg List.reverse h
  simpa [trimBack, trimFront] using this

/-- A run of blanks ends where the first other character stands. -/
theorem blanks_append_inj {front front' : Blanks} {c c' : Char} {rest rest' : List Char}
    (hc : isBlank c = false) (hc' : isBlank c' = false)
    (h : front.text ++ c :: rest = front'.text ++ c' :: rest') :
    front = front' ∧ c :: rest = c' :: rest' := by
  have hrest : c :: rest = c' :: rest' := by
    rw [← trimFront_blanks front hc rest, h, trimFront_blanks front' hc' rest']
  rw [hrest] at h
  exact ⟨Blanks.ext (List.append_cancel_right h), hrest⟩

end TypedRecord.Text
