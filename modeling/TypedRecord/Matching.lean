import TypedRecord.Value.Kind

/-!
# TypedRecord.Matching

When a value matches a descriptor.

`mismatch?` looks for the first innermost place where a value stops matching: it walks a value and
its descriptor together, into the items of typed arrays and nowhere else. A schema reference is
matched by whatever is bound to a schema of that name; with a list of known names, a reference to a
name outside the list matches nothing but null.
-/

namespace TypedRecord

/-- The innermost place where a value stopped matching its descriptor: the positions that lead there
from the outside, the descriptor there, the kind of the value there and, for a reference to an
unknown schema, the name. -/
structure Mismatch where
  path : List Nat
  expected : Descriptor
  actual : String
  unknown : Option String := none
  deriving DecidableEq, Inhabited, Repr

/-- The same mismatch seen from an enclosing array. -/
def Mismatch.under (position : Nat) (m : Mismatch) : Mismatch := { m with path := position :: m.path }

/-- Whether a kind name satisfies a primitive name: the two agree up to case, and a whole number
also does where a floating-point number is expected. -/
def primitiveMatches (actual expected : String) : Bool :=
  Text.sameFolded actual expected || (actual == "int" && Text.sameFolded expected "float")

/-- Whether a name is known; without a list of known names every name is. -/
def knows (known : Option (List String)) (name : String) : Bool :=
  match known with
  | none => true
  | some names => names.contains name

/-- Whether a value that is not null satisfies a descriptor that is just a name. -/
def nameMatches (known : Option (List String)) (name : String) (v : Value) : Bool :=
  match Descriptor.categoryOfName name with
  | .untypedArray => v.kind = .array
  | .map => v.kind = .dictionary
  | .reference => knows known name && v.schema? = some name
  | .primitive | .array => primitiveMatches v.kindName name

/-- The mismatch of a value against a descriptor that is just a name. -/
def nameMismatch? (known : Option (List String)) (name : String) (nullable : Bool) (v : Value) :
    Option Mismatch :=
  if nameMatches known name v then none
  else
    let isUnknown := Descriptor.categoryOfName name = .reference && !knows known name
    some ⟨[], .named name nullable, v.kindName, if isUnknown then some name else none⟩

mutual

/-- The first innermost place where a value does not match, if there is one. -/
def mismatch? (known : Option (List String)) : Descriptor → Value → Option Mismatch
  | d, .atom _ .nil => if d.nullable then none else some ⟨[], d, Kind.nil.name, none⟩
  | .array element _, .list _ items => itemMismatch? known element 0 items
  | .array element _, .tuple _ items => itemMismatch? known element 0 items
  | .array element nullable, v => some ⟨[], .array element nullable, v.kindName, none⟩
  | .named name nullable, v => nameMismatch? known name nullable v

/-- The first mismatch among items, the first of which stands at `position`. -/
def itemMismatch? (known : Option (List String)) (element : Descriptor) (position : Nat) :
    List Value → Option Mismatch
  | [] => none
  | v :: vs =>
    match mismatch? known element v with
    | some m => some (m.under position)
    | none => itemMismatch? known element (position + 1) vs

end

/-- Whether a value matches a descriptor. -/
def matchesDescriptor (known : Option (List String)) (d : Descriptor) (v : Value) : Bool :=
  (mismatch? known d v).isNone

@[simp] theorem mismatch?_nil (known : Option (List String)) (d : Descriptor) :
    mismatch? known d .nil = if d.nullable then none else some ⟨[], d, "Nil", none⟩ := by
  cases d <;> rfl

/-- A typed array is matched when all its items match the element descriptor. -/
theorem itemMismatch?_eq_none_iff (known : Option (List String)) (element : Descriptor)
    (position : Nat) (items : List Value) :
    itemMismatch? known element position items = none ↔
      ∀ v ∈ items, mismatch? known element v = none := by
  induction items generalizing position with
  | nil => simp [itemMismatch?]
  | cons v vs ih =>
    cases h : mismatch? known element v with
    | none => simp [itemMismatch?, h, ih]
    | some m => simp [itemMismatch?, h]

end TypedRecord
