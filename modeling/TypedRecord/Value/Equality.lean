import TypedRecord.Value.Plain

/-!
# TypedRecord.Value.Equality

Equality of values as a program sees it.

Numbers compare by what they stand for, byte strings by their bytes whether they may change or not,
lists and tuples of one form item by item and only among themselves, mappings by their entries in any
order.
Opaque things are equal when they are the same thing. Two records are equal when their types have one
schema name and their plain forms are equal.

What is not a number does not equal itself; as a part of something else it does, because parts that
are one and the same are not compared.

The comparison of plain forms is the same recursion with records and mappings taken for one another,
so the functions below take a flag that says whether the values are compared as plain forms.
-/

namespace TypedRecord

/-- The entries under which a value is compared: in plain comparison a record is the mapping of its
data. -/
def Value.comparedEntries? (plain : Bool) : Value → Option (Entries Value)
  | .dict _ entries | .view _ entries => some entries
  | .record _ _ data => if plain then some data else none
  | _ => none

/-- Whether two marks are those of one object. -/
def oneObject (m n : Mark) : Bool := m.isSome && m = n

mutual

/-- Equality of two parts of values; `plain` compares their plain forms. -/
def Value.equalAs (plain : Bool) : Value → Value → Bool
  | .atom _ (.bytes a), .buffer _ b => a = b
  | .atom _ a, .atom _ b => a.same b
  | .buffer _ a, .buffer _ b => a = b
  | .buffer _ a, .atom _ (.bytes b) => a = b
  | .list m xs, .list n ys => oneObject m n || equalItems plain xs ys
  | @Value.tuple form m xs, @Value.tuple form' n ys =>
    form = form' && (oneObject m n || equalItems false xs ys)
  | .set xs, .set ys => xs.length = ys.length && xs.all fun x => ys.any x.same
  | .dict m xs, w | .view m xs, w =>
    oneObject m w.mark ||
    match w.comparedEntries? plain with
    | some ys => xs.length = ys.length && equalEntries plain xs ys
    | none => false
  | .record _ h xs, w =>
    match plain, w with
    | false, .record _ h' ys =>
      h.type.schemaName = h'.type.schemaName && xs.length = ys.length && equalEntries true xs ys
    | false, _ => false
    | true, w =>
      match w.comparedEntries? true with
      | some ys => xs.length = ys.length && equalEntries true xs ys
      | none => false
  | _, _ => false

def equalItems (plain : Bool) : List Value → List Value → Bool
  | [], [] => true
  | x :: xs, y :: ys => x.equalAs plain y && equalItems plain xs ys
  | [], _ :: _ | _ :: _, [] => false

/-- Whether every entry of the first mapping is found, with an equal value, in the second. -/
def equalEntries (plain : Bool) : List (Key × Value) → List (Key × Value) → Bool
  | [], _ => true
  | (k, v) :: es, others =>
    (match Entries.find? k others with
      | some w => v.equalAs plain w
      | none => false) && equalEntries plain es others

end

/-- Equality of two values. -/
def Value.equal (v w : Value) : Bool :=
  match v with
  | .atom _ a => !a.isNaN && v.equalAs false w
  | v => v.equalAs false w

mutual

/-- Whether two values are one and the same: alike in every detail, marks included. -/
def Value.identical : Value → Value → Bool
  | .atom m a, .atom n b => m = n && a = b
  | .reference m, .reference n => m = n
  | .buffer m a, .buffer n b => m = n && a = b
  | .list m xs, .list n ys => m = n && identicalValues xs ys
  | @Value.tuple form m xs, @Value.tuple form' n ys =>
    form = form' && m = n && identicalValues xs ys
  | .set xs, .set ys => xs = ys
  | .dict m xs, .dict n ys => m = n && identicalEntries xs ys
  | .view m xs, .view n ys => m = n && identicalEntries xs ys
  | .record m h xs, .record n h' ys => m = n && h = h' && identicalEntries xs ys
  | _, _ => false

def identicalValues : List Value → List Value → Bool
  | [], [] => true
  | x :: xs, y :: ys => x.identical y && identicalValues xs ys
  | [], _ :: _ | _ :: _, [] => false

def identicalEntries : List (Key × Value) → List (Key × Value) → Bool
  | [], [] => true
  | (k, v) :: es, (l, w) :: fs => k = l && v.identical w && identicalEntries es fs
  | [], _ :: _ | _ :: _, [] => false

end

end TypedRecord
