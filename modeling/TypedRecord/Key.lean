import TypedRecord.Calendar
import TypedRecord.Descriptor
import TypedRecord.Numeric.Shortest
import TypedRecord.Sorting
import TypedRecord.Text.CodePoint

/-!
# TypedRecord.Key

Atoms, the values without parts, and keys, the values a mapping may be indexed by.

Keys are compared by what they stand for: `1`, `1.0` and `true` are one key, moments are one key when
they are the same instant, and a tuple is compared part by part. `Key.canon` names one representative
of each class, so `Key.same` is an equivalence. What is not a number is one key for each payload.

Opaque things are told apart by a `Mark`. Two of them are the same thing exactly when their marks
agree, whatever they look like. Numbers and texts are compared by what they are, and yet there may be
several that are equal: those that were written down carry a mark too, which nothing but the question
whether two of them are one depends on.
-/

namespace TypedRecord

/-- Which thing this is among all things of its kind. A thing that has just been made and has not
been handed out carries no mark yet. -/
abbrev Mark := Option Nat

/-- Which record type, by its place in the catalog. -/
abbrev TypeId := Nat

/-- What is shown of a record type: which one it is, the name it is printed with, and the schema name
that descriptors refer to. None of these change during the life of a type. -/
structure TypeName where
  id : TypeId
  className : String
  schemaName : String
  deriving DecidableEq, Inhabited, Repr

/-- A value without parts. Record types and the factories of records are values too. -/
inductive Atom
  | nil
  | bool (b : Bool)
  | int (i : Int)
  | float (x : Double)
  | str (s : String)
  | bytes (data : List UInt8)
  | date (d : Date)
  | moment (m : Moment)
  | object (mark : Mark) (label : String)
  | bound (mark : Mark) (schema : String)
  | descriptor (d : Descriptor)
  | type (name : TypeName)
  | factory (mark : Mark) (word : String)
  deriving DecidableEq, Inhabited

namespace Atom

/-- The representative of all atoms that compare equal to this one: truth values are the numbers
zero and one, a whole number is the same however it is written, and a moment in any zone is one in
universal time. -/
def canon : Atom → Atom
  | bool b => int (if b then 1 else 0)
  | float x => match x.toInt? with
    | some i => int i
    | none => float x
  | moment m => moment m.universal
  | a => a

@[simp] theorem canon_str (s : String) : canon (str s) = str s := rfl
@[simp] theorem canon_int (i : Int) : canon (int i) = int i := rfl

/-- The number an atom stands for. Truth values are numbers. -/
def number? : Atom → Option Double
  | bool b => some (.exact (if b then 1 else 0))
  | int i => some (.exact i)
  | float x => some x
  | _ => none

/-- Whether the first of two atoms comes first, where atoms of these kinds have an order: numbers
among themselves, and likewise texts, byte strings and dates. -/
def precedes? (a b : Atom) : Option Bool :=
  match a.number?, b.number? with
  | some x, some y => some (x.less y)
  | _, _ =>
    match a, b with
    | str s, str t => some (Text.precedes s t)
    | bytes x, bytes y => some (decide (x.map UInt8.toNat < y.map UInt8.toNat))
    | date d, date e => some (decide ([d.year, d.month, d.day] < [e.year, e.month, e.day]))
    | _, _ => none

/-- Whether two atoms stand for the same. -/
def same (a b : Atom) : Bool := a.canon = b.canon

/-- Whether an atom is a floating-point number that is none. -/
def isNaN : Atom → Bool
  | float (.nan _) => true
  | _ => false

/-- Whether there is one such atom only, wherever it comes from: null, truth values, small numbers,
texts and byte strings of one character at most, descriptors, and what carries a mark inside. -/
def isUnique : Atom → Bool
  | nil | bool _ | object _ _ | bound _ _ | descriptor _ | type _ | factory _ _ => true
  | int i => -5 ≤ i && i ≤ 256
  | str s => s.length ≤ 1 && s.toList.all fun c => c.toNat < 256
  | bytes data => data.length ≤ 1
  | float _ | date _ | moment _ => false

/-- Equality of atoms as a program sees it. What is not a number equals nothing, itself included. -/
def equal (a b : Atom) : Bool := !a.isNaN && a.same b

end Atom

/-- A value a mapping may be indexed by. -/
inductive Key
  | atom (mark : Mark) (a : Atom)
  | tuple (mark : Mark) (items : List Key)
  deriving Inhabited

namespace Key

/-- The key for a text. -/
abbrev str (s : String) : Key := .atom none (.str s)

mutual

/-- Whether two keys are identical, not merely the same. -/
def identical : Key → Key → Bool
  | .atom m a, .atom n b => m = n && a = b
  | .tuple m xs, .tuple n ys => m = n && identicalItems xs ys
  | .atom _ _, .tuple _ _ | .tuple _ _, .atom _ _ => false

def identicalItems : List Key → List Key → Bool
  | [], [] => true
  | x :: xs, y :: ys => identical x y && identicalItems xs ys
  | [], _ :: _ | _ :: _, [] => false

end

mutual

theorem identical_iff : (a b : Key) → (identical a b = true ↔ a = b)
  | .atom _ _, .atom _ _ => by simp [identical]
  | .tuple _ xs, .tuple _ ys => by simp [identical, identicalItems_iff xs ys]
  | .atom _ _, .tuple _ _ | .tuple _ _, .atom _ _ => by simp [identical]

theorem identicalItems_iff : (xs ys : List Key) → (identicalItems xs ys = true ↔ xs = ys)
  | [], [] => by simp [identicalItems]
  | x :: xs, y :: ys => by
    simp [identicalItems, identical_iff x y, identicalItems_iff xs ys]
  | [], _ :: _ | _ :: _, [] => by simp [identicalItems]

end

instance : DecidableEq Key := fun a b => decidable_of_iff _ (identical_iff a b)

mutual

/-- The representative of all keys that are the same as this one. -/
def canon : Key → Key
  | .atom _ a => .atom none a.canon
  | .tuple _ items => .tuple none (canonItems items)

def canonItems : List Key → List Key
  | [] => []
  | k :: ks => canon k :: canonItems ks

end

/-- Whether two keys index the same entry. -/
def same (a b : Key) : Bool := a.canon = b.canon

@[simp] theorem same_refl (a : Key) : same a a = true := by simp [same]

theorem same_comm (a b : Key) : same a b = same b a := by simp [same, eq_comm]

theorem same_trans {a b c : Key} (h : same a b = true) (h' : same b c = true) :
    same a c = true := by
  simp only [same, decide_eq_true_eq] at *
  exact h.trans h'

/-- Keys that are the same are the same as the same keys. -/
theorem same_congr {a b : Key} (h : same a b = true) (c : Key) : same a c = same b c := by
  simp only [same, decide_eq_true_eq] at *
  rw [h]

/-- Texts are the same key exactly when they are equal. -/
@[simp] theorem same_str (s t : String) : same (str s) (str t) = decide (s = t) := by
  simp [same, canon]

mutual

/-- Whether the first of two keys comes first, where they have an order. Tuples are ordered by their
first difference. -/
def precedes? : Key → Key → Option Bool
  | .atom _ a, .atom _ b => a.precedes? b
  | .tuple _ xs, .tuple _ ys => precedesItems? xs ys
  | .atom _ _, .tuple _ _ | .tuple _ _, .atom _ _ => none

def precedesItems? : List Key → List Key → Option Bool
  | [], [] | _ :: _, [] => some false
  | [], _ :: _ => some true
  | x :: xs, y :: ys => if x.same y then precedesItems? xs ys else precedes? x y

end

/-- Keys in ascending order, if they have one. -/
def sorted? (keys : List Key) : Option (List Key) := Sorting.sort? precedes? keys

end Key

end TypedRecord
