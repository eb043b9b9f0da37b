import TypedRecord.Value.Reference
import TypedRecord.Yaml.Object
import TypedRecord.Yaml.Source

/-!
# TypedRecord.Yaml.Reader

The value that a text spells.

Values are trees. An object is *grounded* if none of its parts leads back to it; its value is made once,
however often it occurs. If the document itself is not grounded then all its objects are marked, and inside
itself an object is unfolded some times, as often as somebody who looks at the document needs.
-/

namespace TypedRecord.Yaml

/-- The value of an object, if all its parts have values. -/
def Contents.value? (mark : Mark) (part : Part → Option Value) : Contents → Option Value
  | .list items => do some (.list mark (← items.mapM part))
  | .pairs items => do
    let pair (e : Part × Part) : Option Value := do
      some (@Value.tuple .fixed none [← part e.1, ← part e.2])
    some (.list mark (← items.mapM pair))
  | .map entries => do
    let entry (e : Key × Part) : Option (Key × Value) := do some (e.1, ← part e.2)
    some (.dict mark (← entries.mapM entry))
  | .set keys => some (.set keys)

/-- The objects of a document; those that were never filled stand for null. -/
abbrev Objects : Type := Array (Option Contents)

/-- The value of a part, if it is an atom or an object of which the value is known. -/
def Part.value? (known : Array (Option Value)) : Part → Option Value
  | .atom a => some (.atom none a)
  | .object id => known.getD id none

/-- The values of objects, as far as those of their parts are known; parts mostly come after what they
are parts of. -/
def groundOnce (objects : Objects) (marked : Bool) (known : Array (Option Value)) :
    Array (Option Value) :=
  (List.range objects.size).reverse.foldl
    (fun known id =>
      if (known.getD id none).isSome then known
      else
        match objects.getD id none with
        | none => known.setIfInBounds id (some .nil)
        | some contents =>
          let mark := if marked then some id else none
          known.setIfInBounds id (contents.value? mark (Part.value? known)))
    known

/-- The number of values that are known. -/
def countKnown (known : Array (Option Value)) : Nat :=
  known.foldl (fun n v => if v.isSome then n + 1 else n) 0

/-- The values of all objects that are grounded. While there are new ones, every round finds one at
least. -/
def groundFrom (objects : Objects) (marked : Bool) :
    Nat → Array (Option Value) → Array (Option Value)
  | 0, known => known
  | fuel + 1, known =>
    let more := groundOnce objects marked known
    if countKnown more = countKnown known then known else groundFrom objects marked fuel more

/-- The values of all objects that are grounded. -/
def ground (objects : Objects) (marked : Bool) : Array (Option Value) :=
  groundFrom objects marked objects.size (.replicate objects.size none)

/-- The value of a part inside the objects `outer`. An object that is not grounded occurs `limit` times at
most on the way to a part, so a fuel beyond that many times the number of objects is enough. -/
def unfold (objects : Objects) (grounded : Array (Option Value)) (limit : Nat) :
    Nat → List NodeId → Part → Value
  | _, _, .atom a => .atom none a
  | 0, _, .object id => .reference id
  | fuel + 1, outer, .object id =>
    match grounded.getD id none, objects.getD id none with
    | some v, _ => v
    | none, none => .nil
    | none, some contents =>
      if limit ≤ outer.count id then .reference id
      else
        let inside (p : Part) := some (unfold objects grounded limit fuel (id :: outer) p)
        (contents.value? (some id) inside).getD .nil

/-- The value of a document, in which an object that is not grounded is unfolded `limit` times inside
itself. -/
def Graph.value (g : Graph) (limit : Nat) : Except Failure Value := do
  let (p, objects) ← g.objects
  match p.value? (ground objects false) with
  | some v => .ok v
  | none => .ok (unfold objects (ground objects true) limit (limit * objects.size + 1) [] p)

/-- Why a text has no value. -/
def Fault.failure : Fault → Failure
  | malformed | unclosed => .malformedYaml
  | undecodable fault => .undecodable fault
  | beyond n => .noSuchCharacter n
  | tooManyDigits digits => .tooManyDigits digits
  | tooDeep => .tooDeep

/-- How often an object is unfolded inside itself, for somebody who looks at it without a plan. -/
def unfoldings : Nat := 4

/-- The value that a source spells; a source without a document spells null. Whoever goes deeper into the
value than usual says how much `deeper`. -/
def Source.read (source : Source) (deeper : Nat := 0) : Except Failure Value := do
  let ts := tokens source.text source.broken
  match ← (Graph.ofTokens ts).mapError Fault.failure with
  | none => .ok .nil
  | some g => g.value (unfoldings + deeper)

/-- The value that a text spells. -/
def read (text : String) (deeper : Nat := 0) : Except Failure Value :=
  (Source.ofText text).read deeper

end TypedRecord.Yaml
