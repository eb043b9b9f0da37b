import TypedRecord.Numeric.Reading
import TypedRecord.Act

/-!
# TypedRecord.Session.Term

Values as they are written in a request.

A term is a value in which variables may occur, in which every opaque thing is written by its looks and
every descriptor by its text. Evaluating a term makes what is written: each atom is a thing of its own
and gets a mark nobody else has, unless there is one such atom only. In the same way each number that
is none, as it is written, gets a payload of its own.
-/

namespace TypedRecord

/-- A value as it is written. -/
inductive Term
  | atom (a : Atom)
  | descriptor (text : String)
  | buffer (data : List UInt8)
  | object (label : String)
  | bound (schema : String)
  | list (items : List Term)
  | tuple (items : List Term)
  | dict (entries : List (Term × Term))
  | view (entries : List (Term × Term))
  | variable (name : String)
  deriving Inhabited

namespace Term

/-- Makes a number that was not made before. -/
def freshNumber : Act Nat Nat := modifyGet fun n => (n, n + 1)

/-- Makes a mark. -/
def freshMark : Act Nat Mark := some <$> freshNumber

mutual

/-- The value of a term; variables are looked up, and new things are marked by counting on. -/
def eval (lookUp : String → Option Value) : Term → Act Nat Value
  | .atom (.float (.nan _)) => do
    let n ← freshNumber
    pure (.atom (some n) (.float (.nan n)))
  | .atom a => do pure (.atom (← if a.isUnique then pure none else freshMark) a)
  | .descriptor text =>
    match Descriptor.parse text with
    | .ok d => pure (.atom none (.descriptor d))
    | .error m => throw (.malformedDescriptor m)
  | .buffer data => pure (.buffer none data)
  | .object label => do pure (.atom none (.object (← freshMark) label))
  | .bound schema => do pure (.atom none (.bound (← freshMark) schema))
  | .list items => do pure (.list none (← evalItems lookUp items))
  | .tuple items => do pure (@Value.tuple .fixed none (← evalItems lookUp items))
  | .dict entries => do pure (.dict none (Entries.ofList (← evalEntries lookUp entries)))
  | .view entries => do pure (.view none (Entries.ofList (← evalEntries lookUp entries)))
  | .variable name =>
    match lookUp name with
    | some v => pure v
    | none => throw .noVariable

def evalItems (lookUp : String → Option Value) : List Term → Act Nat (List Value)
  | [] => pure []
  | t :: ts => do
    let v ← eval lookUp t
    let vs ← evalItems lookUp ts
    pure (v :: vs)

def evalEntries (lookUp : String → Option Value) : List (Term × Term) → Act Nat (List (Key × Value))
  | [] => pure []
  | (k, t) :: es => do
    let key ← eval lookUp k
    let v ← eval lookUp t
    let some key := key.toKey? | throw .wrongKind
    let rest ← evalEntries lookUp es
    pure ((key, v) :: rest)

end

/-- The value of a term without variables. -/
def value (t : Term) : Except Failure Value := ((t.eval fun _ => none).run 0).result

/-- The values of two terms without variables. -/
def values (s t : Term) : Except Failure (Value × Value) :=
  let both : Act Nat (Value × Value) := do
    let v ← s.eval fun _ => none
    let w ← t.eval fun _ => none
    pure (v, w)
  (both.run 0).result

/-- The value of a term, and the entries that pairs of terms spell, without variables. -/
def valueAndEntries (t : Term) (es : List (Term × Term)) :
    Except Failure (Value × Entries Value) :=
  let both : Act Nat (Value × Entries Value) := do
    let v ← t.eval fun _ => none
    let entries ← evalEntries (fun _ => none) es
    pure (v, Entries.ofList entries)
  (both.run 0).result

end Term

end TypedRecord
