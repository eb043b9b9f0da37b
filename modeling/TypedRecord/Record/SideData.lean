import TypedRecord.Record

/-!
# TypedRecord.Record.SideData

Data that others attach to a record, beside its schema.

Every record type reserves one field for side data, a mapping from owners to mappings of their own.
The field is never validated. It is made at the first write and removed when the last owner is
cleared.

What the reserved field or an owner's entry holds is up to whoever wrote the record's data, so
reading and writing are defined on every value: an owner's entry is taken as whatever it is, and an
operation that it does not have fails.
-/

namespace TypedRecord

/-! ### Values as containers -/

/-- A value as a position in a sequence; a negative one counts from the end. -/
def Value.position? : Value → Option Int
  | .atom _ (.int i) => some i
  | .atom _ (.bool b) => some (if b then 1 else 0)
  | _ => none

/-- The place of a position in a sequence of some length. -/
def placeOf (length : Nat) (position : Int) : Except Failure Nat :=
  let i := if position < 0 then position + length else position
  if 0 ≤ i ∧ i < length then .ok i.toNat else .error .indexOutside

/-- A value as a byte. -/
def byteOf (v : Value) : Except Failure UInt8 :=
  match v.position? with
  | none => .error .wrongKind
  | some n => if n < 0 ∨ 255 < n then .error .wrongContent else .ok (UInt8.ofNat n.toNat)

/-- A value as a key; what cannot be one is of the wrong kind. -/
def Value.asKey (v : Value) : Except Failure Key :=
  match v.toKey? with
  | some k => .ok k
  | none => .error .wrongKind

/-- A value as an entry: it must yield a key and a value, and nothing else. -/
def Value.asEntry (v : Value) : Except Failure (Key × Value) :=
  match v.elements? with
  | none => .error .wrongKind
  | some [k, w] => do pure (← k.asKey, w)
  | some _ => .error .wrongContent

/-- The mapping that a sequence of entries spells. -/
def entriesOfElements (elements : List Value) : Except Failure (Entries Value) := do
  pure (Entries.ofList (← elements.mapM Value.asEntry))

namespace SideData

/-- An operation on a record that is itself a value. -/
def onRecord {α : Type} (mark : Mark) (r : Record) (act : Act Record α) : Act Value α := fun _ =>
  let outcome := act.run r
  ⟨outcome.state.toValue mark, outcome.notices, outcome.result⟩

/-- Assigns to a position of a sequence that is made of its items. -/
def assignItem (make : List Value → Value) (items : List Value) (key v : Value) :
    Act Value Unit := do
  let some position := key.position? | throw .wrongKind
  let i ← Act.ofExcept (placeOf items.length position)
  set (make (items.set i v))

/-- Assigns to an item of a value: an entry of a mapping, a field of a record, a position of a list, of a
deque or of a buffer. -/
def assign (cat : Catalog) (key v : Value) : Act Value Unit := do
  match ← get with
  | .dict mark entries => do
    let k ← Act.ofExcept key.asKey
    set (Value.dict mark (Entries.put k v entries))
  | .record mark header data => do
    let k ← Act.ofExcept key.asKey
    let _ ← onRecord mark ⟨header, data⟩ (Record.set cat k v)
  | .list mark items => assignItem (.list mark) items key v
  | @Value.tuple .deque mark items => assignItem (@Value.tuple .deque mark) items key v
  | .buffer mark data => do
    let some position := key.position? | throw .wrongKind
    let byte ← Act.ofExcept (byteOf v)
    let i ← Act.ofExcept (placeOf data.length position)
    set (Value.buffer mark (data.set i byte))
  | _ => throw .wrongKind

/-- Looks a key up in a value: in a mapping or in a record. -/
def lookUp (cat : Catalog) (key default : Value) : Act Value Value := do
  match ← get with
  | .dict _ entries | .view _ entries => do
    let k ← Act.ofExcept key.asKey
    pure ((Entries.find? k entries).getD default)
  | .record mark header data => do
    let k ← Act.ofExcept key.asKey
    onRecord mark ⟨header, data⟩ (Record.get cat k default)
  | _ => throw .unsupportedOperation

/-- Reads fields of a record, each as reading it would. -/
def readFields (cat : Catalog) : List Key → Act Record (List (Key × Value))
  | [] => pure []
  | k :: ks => do
    let v ← Record.getPresent cat k
    let rest ← readFields cat ks
    pure ((k, v) :: rest)

/-- Everything in a value, as a mapping: what a mapping or a record holds, or the entries that a
sequence spells. -/
def contents (cat : Catalog) : Act Value (Entries Value) := do
  match ← get with
  | .dict _ entries | .view _ entries => pure entries
  | .record mark header data => do
    let entries ← onRecord mark ⟨header, data⟩ (readFields cat (Entries.keys data))
    pure entries
  | v =>
    match v.elements? with
    | some elements => Act.ofExcept (entriesOfElements elements)
    | none => throw .wrongKind

/-- The mark and the entries of the side data, if the reserved field holds a writable mapping. -/
def store? (field : Key) (r : Record) : Option (Mark × Entries Value) :=
  match r.data.find? field with
  | some (.dict mark entries) => some (mark, entries)
  | _ => none

/-- What stands under an owner, if the reserved field holds a writable mapping and the owner is in it. -/
def standing? (field o : Key) (r : Record) : Option Value :=
  (store? field r).bind fun store => store.2.find? o

/-- The reserved field of a record. -/
def fieldOf (cat : Catalog) (r : Record) : Key := .str (cat.typeAt r.header.type.id).sideField

/-- Writes the side data back. -/
def putStore (field : Key) (mark : Mark) (entries : Entries Value) : Act Record Unit :=
  modify fun r => { r with data := r.data.put field (.dict mark entries) }

/-- An operation on an owner's entry, which has to be there. -/
def atOwner {α : Type} (field : Key) (owner : Key) (act : Act Value α) : Act Record α := fun r =>
  match store? field r with
  | none => ⟨r, [], .error .wrongKind⟩
  | some (mark, entries) =>
    let outcome := act.run ((entries.find? owner).getD .nil)
    ⟨{ r with data := r.data.put field (.dict mark (entries.put owner outcome.state)) },
      outcome.notices, outcome.result⟩

/-- Makes sure that the reserved field holds a writable mapping. Any other value in it is replaced,
with a warning unless it is null. -/
def ensure (field : Key) (shown : String) : Act Record Unit := do
  let r ← get
  if (store? field r).isNone then
    if ((r.data.find? field).getD .nil).kind ≠ .nil then
      Act.log .warning .sideChannel
        ("Replacing non-mapping value in '" ++ shown ++ "' with an empty namespace store")
    putStore field none []

/-- Stores a value for an owner. -/
def put (cat : Catalog) (owner key v : Value) : Act Record Unit := do
  let type := cat.typeAt (← get).header.type.id
  let field := Key.str type.sideField
  ensure field type.sideField
  let owner ← Act.ofExcept owner.asKey
  match store? field (← get) with
  | some (mark, entries) =>
    if !entries.has owner then putStore field mark (entries.put owner (.dict none []))
  | none => pure ()
  atOwner field owner (assign cat key v)

/-- Reads what an owner has stored under a key. -/
def find (cat : Catalog) (owner key default : Value) : Act Record Value := do
  let field := fieldOf cat (← get)
  match store? field (← get) with
  | none => pure default
  | some (_, entries) => do
    let owner ← Act.ofExcept owner.asKey
    if entries.has owner then atOwner field owner (lookUp cat key default)
    else do
      let _ ← Act.ofExcept key.asKey
      pure default

/-- Whether an owner has an entry. -/
def has (cat : Catalog) (owner : Value) : Act Record Bool := do
  match store? (fieldOf cat (← get)) (← get) with
  | none => pure false
  | some (_, entries) => do
    let owner ← Act.ofExcept owner.asKey
    pure (entries.has owner)

/-- A copy of everything an owner has stored. -/
def all (cat : Catalog) (owner : Value) : Act Record (Entries Value) := do
  let field := fieldOf cat (← get)
  match store? field (← get) with
  | none => pure []
  | some (_, entries) => do
    let owner ← Act.ofExcept owner.asKey
    if entries.has owner then atOwner field owner (contents cat) else pure []

/-- The side data without an owner's entry. Where there is nothing to remove, nothing is looked up. -/
def remainder (owner : Value) (entries : Entries Value) : Except Failure (Entries Value) :=
  if entries.isEmpty then .ok []
  else do
    let owner ← owner.asKey
    .ok (entries.erase owner)

/-- Removes an owner's entry. When no owner is left, the reserved field goes. -/
def clear (cat : Catalog) (owner : Value) : Act Record Unit := do
  let field := fieldOf cat (← get)
  match store? field (← get) with
  | none => pure ()
  | some (mark, entries) => do
    let rest ← Act.ofExcept (remainder owner entries)
    if rest = [] then modify fun r => { r with data := r.data.erase field }
    else putStore field mark rest

/-- The owners in the order in which they were first entered. -/
def owners (cat : Catalog) (r : Record) : List Key :=
  match store? (fieldOf cat r) r with
  | none => []
  | some (_, entries) => entries.keys

end SideData

end TypedRecord
