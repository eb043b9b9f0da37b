/-!
# TypedRecord.Sorting.Merge

Merging two runs, lists of items that ascend each.

Whether one item comes before another is a question that may have no answer, and then the merge has
none either. Nor need the answers make an order: what is compared with what is fixed here, so the result
is fixed as well.

* `reach` tells how far a property holds that holds at the front, if anywhere.
* `merge` merges by comparing heads, or in leaps while one run keeps winning. How many wins in a row
  make it leap is a threshold, which goes down while leaps are long and up when they are not.
-/

namespace TypedRecord.Sorting

variable {α : Type}

/-! ### How far a property holds -/

/-- Where to look for the first item without a property: not before the first place, and not behind the
second one. The steps about double. -/
def stride (holds : α → Option Bool) (items : List α) : Nat → Nat → Nat → Option (Nat × Nat)
  | 0, low, step => some (low, step)
  | fuel + 1, low, step =>
    match items[step]? with
    | none => some (low, items.length)
    | some x => do
      if ← holds x then stride holds items fuel (step + 1) (2 * step + 1)
      else some (low, step)

/-- The first item without a property between two places, found by halving. Of two places in the middle,
`early` is the number of those passed by. -/
def halve (holds : α → Option Bool) (items : List α) (early : Nat) : Nat → Nat → Nat → Option Nat
  | 0, low, _ => some low
  | fuel + 1, low, high =>
    if high ≤ low then some low
    else do
      let middle := low + (high - low - early) / 2
      match items[middle]? with
      | none => some low
      | some x =>
        if ← holds x then halve holds items early fuel (middle + 1) high
        else halve holds items early fuel low middle

/-- How many items at the front have a property. -/
def reach (early : Nat) (holds : α → Option Bool) (items : List α) : Option Nat := do
  match items with
  | [] => some 0
  | x :: _ =>
    if ← holds x then
      let (low, high) ← stride holds items items.length 1 1
      halve holds items early items.length low high
    else some 0

/-! ### Merging -/

/-- What is done while leaping: to take from a run all that comes before the head of the other run, or
to take its head. -/
inductive Move
  | leapShort
  | leapLong
  | stepShort
  | stepLong

/-- How a merge goes on: by comparing heads, after so many wins in a row of either run; or in leaps,
with the moves that are left of a round, and the longest leap of the round. -/
inductive Pace
  | steady (shortWins longWins : Nat)
  | leaping (moves : List Move) (longest : Nat)

/-- The direction of a merge. Going forward, the front run is the short one; going backward, both runs
are turned around and the back run is the short one. -/
inductive Direction
  | forward
  | backward

namespace Direction

/-- Whether the head of the long run is taken before the head of the short one. -/
def longFirst (d : Direction) (before : α → α → Option Bool) (long short : α) : Option Bool :=
  match d with
  | forward => before long short
  | backward => before short long

/-- The moves of a round of leaps. -/
def round : Direction → List Move
  | forward => [.leapShort, .stepLong, .leapLong, .stepShort]
  | backward => [.leapLong, .stepShort, .leapShort, .stepLong]

/-- Which of two middles is taken for the middle: the one that lies further to the back, as the items
were before they were turned around. -/
def early : Direction → Nat
  | forward => 0
  | backward => 1

end Direction

/-- The number of wins in a row, and the length of leaps, that make leaping worthwhile. -/
def leapLength : Nat := 7

/-- Merges what is left of two runs behind what was taken already, last first. Answers the merged run and
the threshold. Every round of leaps takes an item of each run, so a fuel of six for each item is enough. -/
def mergeFrom (d : Direction) (before : α → α → Option Bool) :
    Nat → Pace → Nat → List α → List α → List α → Option (List α × Nat)
  | _, _, threshold, taken, short, [] => some (taken.reverse ++ short, threshold)
  | _, _, threshold, taken, [], long => some (taken.reverse ++ long, threshold)
  | _, _, threshold, taken, [s], long => some (taken.reverse ++ long ++ [s], threshold)
  | 0, _, threshold, taken, short, long => some (taken.reverse ++ short ++ long, threshold)
  | fuel + 1, .steady shortWins longWins, threshold, taken, s :: short, l :: long => do
    if ← d.longFirst before l s then
      let pace := if threshold ≤ longWins + 1 then .leaping d.round 0 else .steady 0 (longWins + 1)
      mergeFrom d before fuel pace threshold (l :: taken) (s :: short) long
    else
      let pace := if threshold ≤ shortWins + 1 then .leaping d.round 0 else .steady (shortWins + 1) 0
      mergeFrom d before fuel pace threshold (s :: taken) short (l :: long)
  | fuel + 1, .leaping [] longest, threshold, taken, short, long =>
    if leapLength ≤ longest then
      let threshold := if 1 < threshold then threshold - 1 else threshold
      mergeFrom d before fuel (.leaping d.round 0) threshold taken short long
    else mergeFrom d before fuel (.steady 0 0) (threshold + 1) taken short long
  | fuel + 1, .leaping (.leapShort :: moves) longest, threshold, taken, short, l :: long => do
    let n ← reach d.early (fun s => not <$> d.longFirst before l s) short
    mergeFrom d before fuel (.leaping moves (max longest n)) threshold
      ((short.take n).reverse ++ taken) (short.drop n) (l :: long)
  | fuel + 1, .leaping (.leapLong :: moves) longest, threshold, taken, s :: short, long => do
    let n ← reach d.early (fun l => d.longFirst before l s) long
    mergeFrom d before fuel (.leaping moves (max longest n)) threshold
      ((long.take n).reverse ++ taken) (s :: short) (long.drop n)
  | fuel + 1, .leaping (.stepShort :: moves) longest, threshold, taken, s :: short, long =>
    mergeFrom d before fuel (.leaping moves longest) threshold (s :: taken) short long
  | fuel + 1, .leaping (.stepLong :: moves) longest, threshold, taken, short, l :: long =>
    mergeFrom d before fuel (.leaping moves longest) threshold (l :: taken) short long

/-- Merges two runs in a direction. The head of the long run is known to come first. -/
def mergeToward (d : Direction) (before : α → α → Option Bool) (threshold : Nat)
    (short long : List α) : Option (List α × Nat) :=
  mergeFrom d before (6 * (short.length + long.length) + 6) (.steady 0 0) threshold
    (long.take 1) short (long.drop 1)

/-- Merges two runs, of which the first one lies in front. Items of the front run that do not come after
the whole back run stay where they are, and likewise at the end. -/
def merge (before : α → α → Option Bool) (front back : List α) : StateT Nat Option (List α) := do
  match back with
  | [] => pure front
  | first :: _ =>
    let kept ← reach 0 (fun x => not <$> before first x) front
    let head := front.take kept
    let front := front.drop kept
    match front.getLast? with
    | none => pure (head ++ back)
    | some last =>
      let kept ← reach 1 (fun x => not <$> before x last) back.reverse
      let tail := back.drop (back.length - kept)
      let back := back.take (back.length - kept)
      if back.isEmpty then pure (head ++ front ++ tail)
      else if front.length ≤ back.length then
        let (merged, threshold) ← mergeToward .forward before (← get) front back
        set threshold
        pure (head ++ merged ++ tail)
      else
        let (merged, threshold) ← mergeToward .backward before (← get) back.reverse front.reverse
        set threshold
        pure (head ++ merged.reverse ++ tail)

end TypedRecord.Sorting
