import TypedRecord.Text.CodePoint

/-!
# TypedRecord.Text.Alike

How alike two texts are.

What two texts share is their longest common run together with what they share before it and after
it. Of several longest runs the one that begins first counts, in the first text and then in the
second. The likeness of the texts is the part of their code points that is shared, between none and
all.
-/

namespace TypedRecord.Text

variable {α : Type} [DecidableEq α]

/-- How much two sequences have in common at the front. -/
def commonFront : List α → List α → Nat
  | a :: as, b :: bs => if a = b then commonFront as bs + 1 else 0
  | _, _ => 0

/-- A run that two sequences have in common: where it begins in either, and its length. -/
structure CommonRun where
  left : Nat := 0
  right : Nat := 0
  length : Nat := 0
  deriving DecidableEq, Inhabited, Repr

/-- The longest run in common. -/
def longestRun (as bs : List α) : CommonRun :=
  (List.range as.length).foldl (fun best i =>
    (List.range bs.length).foldl (fun best j =>
      let n := commonFront (as.drop i) (bs.drop j)
      if best.length < n then ⟨i, j, n⟩ else best) best) {}

/-- How much of each sequence is shared. A longest run lies within both, so what is before it and after
it is shorter. -/
def sharedLength (as bs : List α) : Nat :=
  let run := longestRun as bs
  if _h : 0 < run.length ∧ run.left + run.length ≤ as.length then
    sharedLength (as.take run.left) (bs.take run.right) + run.length +
      sharedLength (as.drop (run.left + run.length)) (bs.drop (run.right + run.length))
  else 0
  termination_by as.length
  decreasing_by all_goals subst run; simp only [List.length_take, List.length_drop]; omega

/-- The likeness of two texts, as a part of a whole. -/
structure Likeness where
  part : Nat
  whole : Nat
  deriving DecidableEq, Inhabited, Repr

/-- Whether a part is at least as large as another one. -/
def Likeness.atLeast (a b : Likeness) : Bool := b.part * a.whole ≤ a.part * b.whole

/-- How alike two texts are. -/
def likeness (s t : String) : Likeness :=
  ⟨2 * sharedLength (pointsOf s) (pointsOf t), length s + length t⟩

/-- How alike texts must be for one to be taken for a slip of the other. -/
def slip : Likeness := ⟨3, 5⟩

/-- The candidates that a word may be a slip of: the three most alike, and of equally alike ones the
later in the alphabet. -/
def closest (word : String) (candidates : List String) : List String :=
  let scored := candidates.map fun c => (likeness c word, c)
  let near := scored.filter fun e => e.1.atLeast slip
  let ranked := near.mergeSort fun a b =>
    a.1.atLeast b.1 && (!(b.1.atLeast a.1) || decide (b.2 ≤ a.2))
  (ranked.take 3).map Prod.snd

end TypedRecord.Text
