import TypedRecord.Act
import TypedRecord.Value.Equality
import TypedRecord.Value.Reference

/-!
# TypedRecord.Session.Heap

Values that are shared.

Values are trees, and a session needs objects: a list that two records hold must look the same from
both after it has grown. A heap holds one cell for every mark of an object with parts. In a cell, and
in a variable, every such part of a value is a *reference*.

* `Heap.full` replaces references by what their cells hold. An object that holds itself has no tree of
  finite depth; inside itself it is unfolded some times more, and then its reference stays.
* `Heap.keep` takes a value apart into cells. Parts that carry no mark yet are new and get one.
* `Heap.refresh` brings a value up to date that was kept elsewhere.
* `Heap.equal` compares objects part by part, as far as their parts differ.

An operation works on full values, in which one object may occur several times, and changes some
occurrences. Keeping its result writes only cells that differ from those before the operation, so an
occurrence that was not touched does not undo what happened to another one.
-/

namespace TypedRecord

/-- The cells of all marked objects, and the next mark. -/
structure Heap where
  cells : List (Nat × Value) := []
  next : Nat := 0
  deriving Inhabited

namespace Heap

/-- The cell of a mark. -/
def find? (h : Heap) (m : Nat) : Option Value :=
  (List.find? (fun c => c.1 = m) h.cells).map Prod.snd

/-- Cells with the one of a mark changed, or entered if there is none. -/
def putCell (m : Nat) (v : Value) : List (Nat × Value) → List (Nat × Value)
  | [] => [(m, v)]
  | c :: cs => if c.1 = m then (m, v) :: cs else c :: putCell m v cs

/-- The heap with a cell written. -/
def put (m : Nat) (v : Value) (h : Heap) : Heap := { h with cells := putCell m v h.cells }

theorem find?_put_self (m : Nat) (v : Value) (h : Heap) : (h.put m v).find? m = some v := by
  unfold put find?
  induction h.cells with
  | nil => simp [putCell]
  | cons c cs ih => by_cases hc : c.1 = m <;> simp_all [putCell]

theorem find?_put_of_ne {m n : Nat} (hne : m ≠ n) (v : Value) (h : Heap) :
    (h.put m v).find? n = h.find? n := by
  unfold put find?
  induction h.cells with
  | nil => simp [putCell, hne]
  | cons c cs ih =>
    by_cases hc : c.1 = m
    · subst hc
      simp [putCell, hne]
    · by_cases hn : c.1 = n <;> simp_all [putCell]

/-- The full value of a mark inside the objects `outer`. On the way to a part every object occurs
`limit` times at most, so a fuel beyond that many times the number of cells is enough. -/
def load (h : Heap) (limit : Nat) : Nat → List Nat → Nat → Option Value
  | 0, _, _ => none
  | fuel + 1, outer, m =>
    if limit ≤ outer.count m then none
    else (h.find? m).map (Value.fill (h.load limit fuel (m :: outer)))

/-- What a mark stands for, with every object unfolded `limit` times on the way to a part. -/
def whole (h : Heap) (limit : Nat) (m : Nat) : Option Value :=
  h.load limit (limit * h.cells.length + 1) [] m

/-- A value with its references replaced by what they stand for. -/
def full (h : Heap) (limit : Nat) (v : Value) : Value := v.fill (h.whole limit)

/-! ### Keeping -/

/-- A mark that nothing carries. -/
def fresh : StateM Heap Nat := modifyGet fun h => (h.next, { h with next := h.next + 1 })

/-- Keeps an object, whose parts are kept already, and answers a reference to it. An object that was
there `before` is written only if it has changed. -/
def keepObject (before : Heap) (mark : Mark) (make : Mark → Value) : StateM Heap Value := do
  match mark with
  | some m =>
    let cell := make (some m)
    if !(before.find? m).any cell.identical then modify (put m cell)
    pure (.reference m)
  | none =>
    let m ← fresh
    modify (put m (make (some m)))
    pure (.reference m)

mutual

/-- A key with marks on the tuples in it. -/
def markKey : Key → StateM Heap Key
  | .tuple none [] => pure (.tuple none [])
  | .tuple none items => do
    let items ← markKeys items
    pure (.tuple (some (← fresh)) items)
  | k => pure k

def markKeys : List Key → StateM Heap (List Key)
  | [] => pure []
  | k :: ks => do
    let first ← markKey k
    let rest ← markKeys ks
    pure (first :: rest)

end

mutual

/-- Takes a value apart into cells; what is left holds references. -/
def keepValue (before : Heap) : Value → StateM Heap Value
  | .atom mark (.object none label) => do pure (.atom mark (.object (some (← fresh)) label))
  | .atom mark (.bound none schema) => do pure (.atom mark (.bound (some (← fresh)) schema))
  | .buffer mark data => keepObject before mark fun mark => .buffer mark data
  | .list mark items => do
    let items ← keepItems before items
    keepObject before mark fun mark => .list mark items
  | @Value.tuple .fixed none [] => pure (@Value.tuple .fixed none [])
  | @Value.tuple form mark items => do
    let items ← keepItems before items
    keepObject before mark fun mark => @Value.tuple form mark items
  | .dict mark entries => do
    let entries ← keepEntries before entries
    keepObject before mark fun mark => .dict mark entries
  | .view mark entries => do
    let entries ← keepEntries before entries
    keepObject before mark fun mark => .view mark entries
  | .record mark header data => do
    let data ← keepEntries before data
    keepObject before mark fun mark => .record mark header data
  | v => pure v

def keepItems (before : Heap) : List Value → StateM Heap (List Value)
  | [] => pure []
  | v :: vs => do
    let first ← keepValue before v
    let rest ← keepItems before vs
    pure (first :: rest)

def keepEntries (before : Heap) : List (Key × Value) → StateM Heap (List (Key × Value))
  | [] => pure []
  | (k, v) :: es => do
    let k ← markKey k
    let v ← keepValue before v
    let rest ← keepEntries before es
    pure ((k, v) :: rest)

end

/-- Keeps a value; answers what stands for it, and the heap after that. -/
def keep (h : Heap) (v : Value) : Value × Heap := (keepValue h v).run h

/-! ### Bringing up to date -/

mutual

/-- A value as it is now: objects in it that are in the heap are those of the heap. -/
def refresh (h : Heap) (limit : Nat) : Value → Value
  | .list (some m) items => (h.whole limit m).getD (.list (some m) (refreshItems h limit items))
  | .list none items => .list none (refreshItems h limit items)
  | @Value.tuple form (some m) items =>
    (h.whole limit m).getD (@Value.tuple form (some m) (refreshItems h limit items))
  | @Value.tuple form none items => @Value.tuple form none (refreshItems h limit items)
  | .dict (some m) es => (h.whole limit m).getD (.dict (some m) (refreshEntries h limit es))
  | .dict none es => .dict none (refreshEntries h limit es)
  | .view (some m) es => (h.whole limit m).getD (.view (some m) (refreshEntries h limit es))
  | .view none es => .view none (refreshEntries h limit es)
  | .record (some m) header es =>
    (h.whole limit m).getD (.record (some m) header (refreshEntries h limit es))
  | .record none header es => .record none header (refreshEntries h limit es)
  | .buffer (some m) data => (h.whole limit m).getD (.buffer (some m) data)
  | .reference m => (h.whole limit m).getD (.reference m)
  | v => v

def refreshItems (h : Heap) (limit : Nat) : List Value → List Value
  | [] => []
  | v :: vs => refresh h limit v :: refreshItems h limit vs

def refreshEntries (h : Heap) (limit : Nat) : List (Key × Value) → List (Key × Value)
  | [] => []
  | (k, v) :: es => (k, refresh h limit v) :: refreshEntries h limit es

end

/-! ### Equality -/

/-- What a value is, one level deep. -/
def resolve (h : Heap) : Value → Value
  | .reference m => (h.find? m).getD (.reference m)
  | v => v

/-- Whether parts and their counterparts are all equal, looked at in order. -/
def allEqual (equal : Value → Value → Except Failure Bool) : List (Value × Value) → Except Failure Bool
  | [] => .ok true
  | (v, w) :: rest => do if ← equal v w then allEqual equal rest else .ok false

/-- Whether every entry has a counterpart that is equal, looked at in order. -/
def allFound (equal : Value → Value → Except Failure Bool) (others : Entries Value) :
    List (Key × Value) → Except Failure Bool
  | [] => .ok true
  | (k, v) :: rest => do
    match others.find? k with
    | some w => if ← equal v w then allFound equal others rest else .ok false
    | none => .ok false

/-- Makes sure that the plain form of a record comes to an end. -/
def flattens (h : Heap) (data : Entries Value) : Except Failure Unit :=
  if (h.full 1 (.dict none data)).meets Value.isMadePlain then .error .circular else .ok ()

/-- Equality of two values of which the parts are compared by `equal`, as plain forms or not. -/
def equalParts (h : Heap) (plain : Bool) (equal : Bool → Value → Value → Except Failure Bool)
    (v w : Value) : Except Failure Bool :=
  match v, w with
  | .list _ xs, .list _ ys =>
    if xs.length = ys.length then allEqual (equal plain) (xs.zip ys) else .ok false
  | @Value.tuple .deque _ xs, @Value.tuple .deque _ ys =>
    if xs.length = ys.length then allEqual (equal false) (xs.zip ys) else .ok false
  | @Value.tuple .fixed _ xs, @Value.tuple .fixed _ ys => do
    if ← allEqual (equal false) (xs.zip ys) then .ok (xs.length = ys.length) else .ok false
  | .record _ header xs, .record _ header' ys =>
    if plain then
      if xs.length = ys.length then allFound (equal true) ys xs else .ok false
    else if header.type.schemaName = header'.type.schemaName then do
      flattens h xs
      flattens h ys
      if xs.length = ys.length then allFound (equal true) ys xs else .ok false
    else .ok false
  | v, w =>
    match v.comparedEntries? plain, w.comparedEntries? plain with
    | some xs, some ys =>
      if xs.length = ys.length then allFound (equal plain) ys xs else .ok false
    | _, _ => .ok (v.equalAs plain w)

/-- Equality of two parts that are compared inside the pairs of objects `outer`. An object is equal to
itself; a pair of objects that is met inside itself has no end. Every pair occurs once at most, so a
fuel beyond the number of pairs is enough. -/
def equalWithin (h : Heap) : Nat → List (Nat × Nat) → Bool → Value → Value → Except Failure Bool
  | 0, _, _, _, _ => .error .circular
  | fuel + 1, outer, plain, v, w =>
    match v, w with
    | .reference m, .reference n =>
      if m = n then .ok true
      else if outer.contains (m, n) then .error .circular
      else h.equalParts plain (h.equalWithin fuel ((m, n) :: outer)) (h.resolve v) (h.resolve w)
    | v, w => h.equalParts plain (h.equalWithin fuel outer) (h.resolve v) (h.resolve w)

/-- Equality of what two kept values stand for. -/
def equal (h : Heap) (v w : Value) : Except Failure Bool :=
  let fuel := 2 * (h.cells.length * h.cells.length + 2)
  match v with
  | .atom _ a => if a.isNaN then .ok false else h.equalWithin fuel [] false v w
  | v => h.equalParts false (h.equalWithin fuel []) (h.resolve v) (h.resolve w)

end Heap

end TypedRecord
