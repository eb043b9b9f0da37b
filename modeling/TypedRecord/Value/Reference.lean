import TypedRecord.Value

/-!
# TypedRecord.Value.Reference

References inside values.

* `Value.fill` replaces references by what they stand for.
* `Value.isCut` tells whether some are left, and `Value.meets` whether some are left where one looks.
* `Value.depth` is the depth of the tree.
-/

namespace TypedRecord

mutual

/-- A value with the references in it replaced, as far as `look` knows their marks. -/
def Value.fill (look : Nat → Option Value) : Value → Value
  | .reference m => (look m).getD (.reference m)
  | .list mark items => .list mark (fillItems look items)
  | @Value.tuple form mark items => @Value.tuple form mark (fillItems look items)
  | .dict mark entries => .dict mark (fillEntries look entries)
  | .view mark entries => .view mark (fillEntries look entries)
  | .record mark header data => .record mark header (fillEntries look data)
  | v => v

def fillItems (look : Nat → Option Value) : List Value → List Value
  | [] => []
  | v :: vs => v.fill look :: fillItems look vs

def fillEntries (look : Nat → Option Value) : List (Key × Value) → List (Key × Value)
  | [] => []
  | (k, v) :: es => (k, v.fill look) :: fillEntries look es

end

mutual

/-- Whether a reference is met in a value, where only the parts of what `enters` admits are looked
at. -/
def Value.meets (enters : Value → Bool) : Value → Bool
  | .reference _ => true
  | .list mark items => enters (.list mark items) && anyMeets enters items
  | @Value.tuple form mark items => enters (@Value.tuple form mark items) && anyMeets enters items
  | .dict mark entries => enters (.dict mark entries) && anyEntryMeets enters entries
  | .view mark entries => enters (.view mark entries) && anyEntryMeets enters entries
  | .record mark header data => enters (.record mark header data) && anyEntryMeets enters data
  | _ => false

def anyMeets (enters : Value → Bool) : List Value → Bool
  | [] => false
  | v :: vs => v.meets enters || anyMeets enters vs

def anyEntryMeets (enters : Value → Bool) : List (Key × Value) → Bool
  | [] => false
  | (_, v) :: es => v.meets enters || anyEntryMeets enters es

end

/-- Whether a reference is left anywhere in a value. -/
def Value.isCut (v : Value) : Bool := v.meets fun _ => true

/-- Whether the parts of a value are copied with it. -/
def Value.isCopiedDeeply : Value → Bool
  | .list _ _ | .dict _ _ => true
  | _ => false

/-- Whether a value becomes another one in plain form, or may do so for its parts. -/
def Value.isMadePlain : Value → Bool
  | .list _ _ | .dict _ _ | .view _ _ | .record _ _ _ => true
  | _ => false

mutual

/-- How many containers are around the innermost part of a value. -/
def Value.depth : Value → Nat
  | .list _ items | .tuple _ items => itemsDepth items + 1
  | .dict _ entries | .view _ entries | .record _ _ entries => entriesDepth entries + 1
  | _ => 0

def itemsDepth : List Value → Nat
  | [] => 0
  | v :: vs => max v.depth (itemsDepth vs)

def entriesDepth : List (Key × Value) → Nat
  | [] => 0
  | (_, v) :: es => max v.depth (entriesDepth es)

end

end TypedRecord
