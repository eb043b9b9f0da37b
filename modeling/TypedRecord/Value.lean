import TypedRecord.Diagnostic
import TypedRecord.Entries

/-!
# TypedRecord.Value

The values that fields hold.

A value is an immutable tree. Sharing is not part of it: every part carries a `Mark` that says which
object it is, and whoever keeps several values at a time is responsible for keeping the trees under
one mark equal. A container that an operation has just built carries no mark, and neither does an atom
of which there is one only.

An object that holds itself has no tree of finite depth. Where its tree is cut short there is a
*reference*, which names the object and holds nothing.

Records are values too. A record is a `Header`, which holds everything but its data, and the entries
themselves; the header names the record's type, so the kind and the text of a value need no table of
types.
-/

namespace TypedRecord

/-- Which registry, by its place in the catalog. -/
abbrev RegistryId := Nat

/-- How data is judged: the registry that resolves references, where failures are reported, whether
anything is checked at all, and how many neighbours a failure shows on each side. -/
structure Validator where
  registry : Option RegistryId := none
  sink : Sink := .none
  enabled : Bool := true
  excerpt : Int := 2
  deriving DecidableEq, Inhabited, Repr

/-- Everything of a record but its data. `initialVerdict` is the verdict on the data that the record
was made of, and `lastVerdict` the last one on its data since. -/
structure Header where
  type : TypeName
  mode : Mode
  registry : Option RegistryId
  validator : Validator
  sink : Sink
  valid : Bool
  tainted : Bool
  initialVerdict : Verdict
  lastVerdict : Option Verdict
  deriving DecidableEq, Inhabited, Repr

/-- What a sequence is that is no list, text or byte string: a fixed tuple, or a deque, whose items may
change. -/
inductive TupleForm
  | fixed
  | deque
  deriving DecidableEq, Inhabited, Repr

/-- A value. A buffer is a byte string that may change, a view is a mapping that may only be read, and a
set is an unordered collection of keys. Tuples stand for all sequences that are no lists; their form is
left out wherever it makes no difference. -/
inductive Value
  | atom (mark : Mark) (a : Atom)
  | reference (mark : Nat)
  | buffer (mark : Mark) (data : List UInt8)
  | list (mark : Mark) (items : List Value)
  | tuple {form : TupleForm} (mark : Mark) (items : List Value)
  | set (items : List Key)
  | dict (mark : Mark) (entries : List (Key × Value))
  | view (mark : Mark) (entries : List (Key × Value))
  | record (mark : Mark) (header : Header) (data : List (Key × Value))
  deriving Inhabited

namespace Value

/-- The null value. -/
abbrev nil : Value := .atom none .nil

/-- A truth value. -/
abbrev bool (b : Bool) : Value := .atom none (.bool b)

/-- A whole number. -/
abbrev int (i : Int) : Value := .atom none (.int i)

/-- A text. -/
abbrev str (s : String) : Value := .atom none (.str s)

/-- The text a value is, if it is one. -/
def text? : Value → Option String
  | .atom _ (.str s) => some s
  | _ => none

mutual

/-- A key as a value. -/
def ofKey : Key → Value
  | .atom mark a => .atom mark a
  | .tuple mark items => @Value.tuple .fixed mark (ofKeys items)

def ofKeys : List Key → List Value
  | [] => []
  | k :: ks => ofKey k :: ofKeys ks

end

mutual

/-- The key a value is, if a mapping may be indexed by it: atoms, and fixed tuples of such values. -/
def toKey? : Value → Option Key
  | .atom mark a => some (.atom mark a)
  | @Value.tuple .fixed mark items => (toKeys? items).map (.tuple mark)
  | _ => none

def toKeys? : List Value → Option (List Key)
  | [] => some []
  | v :: vs => do
    let k ← toKey? v
    let ks ← toKeys? vs
    some (k :: ks)

end

/-- The entries of a plain mapping, writable or not. Records are no mappings. -/
def entries? : Value → Option (Entries Value)
  | .dict _ entries | .view _ entries => some entries
  | _ => none

/-- The items of a sequence that is neither a text nor a byte string. -/
def items? : Value → Option (List Value)
  | .list _ items | .tuple _ items => some items
  | _ => none

/-- What a value yields when it is gone through item by item: mappings and records yield their keys,
texts their characters, byte strings their bytes. -/
def elements? : Value → Option (List Value)
  | .list _ items | .tuple _ items => some items
  | .set items => some (items.map Value.ofKey)
  | .dict _ entries | .view _ entries | .record _ _ entries =>
    some ((Entries.keys entries).map Value.ofKey)
  | .buffer _ data | .atom _ (.bytes data) => some (data.map fun b => .int b.toNat)
  | .atom _ (.str s) => some ((Text.pointsOf s).map fun n => .str (Text.ofPoints [n]))
  | .atom _ _ | .reference _ => none

/-- Whether a value counts as true: everything but null, false, zero and what is empty. -/
def truthy : Value → Bool
  | .atom _ a => match a with
    | .nil => false
    | .bool b => b
    | .int i => i != 0
    | .float x => !x.isZero
    | .str s => s != ""
    | .bytes data => !data.isEmpty
    | _ => true
  | .reference _ => true
  | .buffer _ data => !data.isEmpty
  | .list _ items | .tuple _ items => !items.isEmpty
  | .set items => !items.isEmpty
  | .dict _ entries | .view _ entries | .record _ _ entries => !entries.isEmpty

/-- The mark of a value that can be shared. -/
def mark : Value → Mark
  | .buffer mark _ | .list mark _ | .tuple mark _ | .dict mark _ | .view mark _
  | .record mark _ _ => mark
  | .atom _ (.object mark _) | .atom _ (.bound mark _) | .atom _ (.factory mark _) => mark
  | .reference mark => some mark
  | _ => none

end Value

end TypedRecord
