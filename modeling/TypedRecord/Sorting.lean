import TypedRecord.Sorting.Merge

/-!
# TypedRecord.Sorting

Sorting by runs.

A list is read as runs, stretches that ascend already, or descend and are turned around; runs that are
too short take in more items. Runs are merged with their neighbours so that the merges come close to
halving the list over and over: each place between two runs has a *power*, the number of halvings after
which the middles of the two runs fall apart, and places of greater power are merged first.

Where the answers of `before` make an order, the result is the sorted list and equal items keep their
places. Where they do not, as with numbers that are none, the result is what these steps make of it.
-/

namespace TypedRecord.Sorting

variable {α : Type}

/-! ### Runs -/

/-- The run at the front of `last :: items` in which no item comes before the one in front of it; `done`
holds what is in front of `last`, last first. Answers the run and the items behind it. -/
def ascending (before : α → α → Option Bool) (done : List α) (last : α) :
    List α → Option (List α × List α)
  | [] => some ((last :: done).reverse, [])
  | x :: xs => do
    if ← before x last then some ((last :: done).reverse, x :: xs)
    else ascending before (last :: done) x xs

/-- The run at the front of `last :: items` in which every item comes before the one in front of it.
Answers the run, turned around, and the items behind it. -/
def descending (before : α → α → Option Bool) (done : List α) (last : α) :
    List α → Option (List α × List α)
  | [] => some (last :: done, [])
  | x :: xs => do
    if ← before x last then descending before (last :: done) x xs
    else some (last :: done, x :: xs)

/-- The run at the front, and the items behind it. -/
def firstRun (before : α → α → Option Bool) : List α → Option (List α × List α)
  | [] => some ([], [])
  | [x] => some ([x], [])
  | x :: y :: rest => do
    if ← before y x then descending before [x] y rest else ascending before [x] y rest

/-- Inserts an item into a run, behind all items that it does not come before. -/
def insert (before : α → α → Option Bool) (run : List α) (x : α) : Option (List α) := do
  let place ← halve (fun y => not <$> before x y) run 0 run.length 0 run.length
  some (run.take place ++ x :: run.drop place)

/-- How long runs are at least, in a list of some length: the length itself while it is below 64, and
else such that the length is close to a power of two times it. -/
def minRun (length : Nat) : Nat :=
  if length < 64 then length
  else
    let shift := length.log2 - 5
    length >>> shift + (if length % (1 <<< shift) = 0 then 0 else 1)

/-! ### Powers -/

/-- The number of halvings of an interval of size `n` after which two places in it, given as doubles,
are in different halves. -/
def halvings (n : Nat) : Nat → Nat → Nat → Nat
  | 0, _, _ => 1
  | fuel + 1, a, b =>
    if n ≤ a then halvings n fuel (2 * (a - n)) (2 * (b - n)) + 1
    else if n ≤ b then 1
    else halvings n fuel (2 * a) (2 * b) + 1

/-- The power of the place between two neighbouring runs, of which the first starts at `start`, in a list
of length `n`. -/
def power (n start first second : Nat) : Nat :=
  let a := 2 * start + first
  halvings n n a (a + first + second)

/-- A run, with the power of the place behind it. -/
structure Pending (α : Type) where
  run : List α
  power : Nat

/-! ### Merging runs -/

/-- Merges the last run with those in front of it, as long as the place between has a greater power than
`p`. -/
def mergeAbove (before : α → α → Option Bool) (p : Nat) (last : List α) :
    List (Pending α) → StateT Nat Option (List α × List (Pending α))
  | [] => pure (last, [])
  | e :: earlier => do
    if p < e.power then mergeAbove before p (← merge before e.run last) earlier
    else pure (last, e :: earlier)

/-- Makes the runs at hand ready for a new one of some length that starts at `start`. Runs are held last
first. -/
def settle (before : α → α → Option Bool) (n start length : Nat) :
    List (Pending α) → StateT Nat Option (List (Pending α))
  | [] => pure []
  | e :: earlier => do
    let p := power n (start - e.run.length) e.run.length length
    let (last, earlier) ← mergeAbove before p e.run earlier
    pure (⟨last, p⟩ :: earlier)

/-- Splits a list of length `n` into runs, of which some are merged already. Every run has an item, so the
length is fuel enough. -/
def collect (before : α → α → Option Bool) (n : Nat) :
    Nat → Nat → List (Pending α) → List α → StateT Nat Option (List (Pending α))
  | 0, _, pending, _ => pure pending
  | _, _, pending, [] => pure pending
  | fuel + 1, start, pending, items => do
    let (run, rest) ← firstRun before items
    let missing := minRun n - run.length
    let run ← (rest.take missing).foldlM (fun run x => insert before run x) run
    let pending ← settle before n start run.length pending
    collect before n fuel (start + run.length) (⟨run, 0⟩ :: pending) (rest.drop missing)

/-- Merges all runs, held last first: the last two, unless the run in front of them is shorter than the
last one. -/
def mergeAll (before : α → α → Option Bool) : List (List α) → StateT Nat Option (List α)
  | [] => pure []
  | [run] => pure run
  | [c, b] => merge before b c
  | c :: b :: a :: rest => do
    if a.length < c.length then
      let merged ← merge before a b
      mergeAll before (c :: merged :: rest)
    else
      let merged ← merge before b c
      mergeAll before (merged :: a :: rest)
  termination_by runs => runs.length

/-- The items of a list in ascending order, unless a comparison that is made has no answer. -/
def sort? (before : α → α → Option Bool) (items : List α) : Option (List α) :=
  let sorted : StateT Nat Option (List α) := do
    let pending ← collect before items.length items.length 0 [] items
    mergeAll before (pending.map Pending.run)
  sorted.run' leapLength

end TypedRecord.Sorting
