import TypedRecord.Record.Call

/-!
# TypedRecord.Record.Sharing

Calls on records whose parts are objects.

A value is a tree, and a call rewrites the tree where it meets it. But what stands under an owner of side
data is assigned to in place, and owners are entered into the side data in place. These are objects: they
may stand in other fields too, and then look there as they look in the side data.
`Call.performShared` keeps the trees of one object equal. It tells objects by their marks, so a container
without a mark stands in one place only.

An object may also be the record itself. Assigning to an item of it is writing a field.
-/

namespace TypedRecord

/-! ### Objects in several places -/

/-- Whether two values are one container: they have one mark, and what never changes of a container is the
same. -/
def Value.isOne : Value → Value → Bool
  | .buffer m _, .buffer n _ | .list m _, .list n _ | .dict m _, .dict n _ | .view m _, .view n _ =>
    m.isSome && m == n
  | @Value.tuple form m _, @Value.tuple form' n _ => form = form' && m.isSome && m == n
  | .record m header _, .record n header' _ => header.type = header'.type && m.isSome && m == n
  | _, _ => false

mutual

/-- A value in which parts are replaced by what has become of them, from the outside inwards. -/
def Value.revise (become : Value → Option Value) : Value → Value
  | .list mark items => (become (.list mark items)).getD (.list mark (reviseItems become items))
  | @Value.tuple form mark items =>
    (become (@Value.tuple form mark items)).getD (@Value.tuple form mark (reviseItems become items))
  | .dict mark entries => (become (.dict mark entries)).getD (.dict mark (reviseEntries become entries))
  | .view mark entries => (become (.view mark entries)).getD (.view mark (reviseEntries become entries))
  | .record mark header data =>
    (become (.record mark header data)).getD (.record mark header (reviseEntries become data))
  | v => (become v).getD v

def reviseItems (become : Value → Option Value) : List Value → List Value
  | [] => []
  | v :: vs => v.revise become :: reviseItems become vs

def reviseEntries (become : Value → Option Value) : List (Key × Value) → List (Key × Value)
  | [] => []
  | (k, v) :: es => (k, v.revise become) :: reviseEntries become es

end

mutual

/-- Whether a sequence of some kind is met on the way through sequences into a value. -/
def Value.meetsSequence (sought : Value → Bool) : Value → Bool
  | .list mark items => sought (.list mark items) || anyMeetsSequence sought items
  | @Value.tuple form mark items =>
    sought (@Value.tuple form mark items) || anyMeetsSequence sought items
  | _ => false

def anyMeetsSequence (sought : Value → Bool) : List Value → Bool
  | [] => false
  | v :: vs => v.meetsSequence sought || anyMeetsSequence sought vs

end

namespace Record

/-- A record with a container exchanged for what it has become, wherever it stands. -/
def exchange (old new : Value) (r : Record) : Record :=
  { r with data := reviseEntries (fun v => if old.isOne v then some new else none) r.data }

/-! ### Calls -/

/-- The owner whose side data a call is about. -/
def Call.owner? : Call → Option Value
  | .sidePut owner _ _ | .sideFind owner _ _ | .sideHas owner | .sideAll owner | .sideClear owner =>
    some owner
  | _ => none

/-- Whether a call may change what stands under its owner. An assignment may; looking something up turns
mappings in the fields of records into records. -/
def Call.changes : Call → Value → Bool
  | .sidePut _ _ _, _ => true
  | .sideFind _ _ _, .record _ _ _ | .sideAll _, .record _ _ _ => true
  | _, _ => false

/-- What stands under the owner of a call. -/
def Call.standing? (field : Key) (call : Call) (r : Record) : Option Value := do
  let owner ← call.owner?
  SideData.standing? field (← owner.toKey?) r

/-- A record after a call, where what the call has changed under its owner is changed wherever it
stands. -/
def Call.spreadEntry (field : Key) (call : Call) (before after : Record) : Record :=
  match call.standing? field before, call.standing? field after with
  | some old, some new => if call.changes old then after.exchange old new else after
  | _, _ => after

/-- The same for the side data, if the call is about it. When the last owner goes, the record lets go of
its side data, which is empty then. -/
def Call.spread (field : Key) (call : Call) (before after : Record) : Record :=
  match call.owner?, SideData.store? field before with
  | some _, some (mark, entries) =>
    let changed := call.spreadEntry field before after
    let left := ((SideData.store? field changed).map Prod.snd).getD []
    changed.exchange (.dict mark entries) (.dict mark left)
  | _, _ => after

/-- Whether a value is the record with a mark. -/
def isRecordMarked (self : Mark) : Value → Bool
  | .record mark _ _ => mark.isSome && mark == self
  | _ => false

/-- The call that a call comes down to. If the record itself stands under the owner, an item of the entry
is a field of the record. -/
def Call.redirected (cat : Catalog) (self : Mark) (r : Record) (call : Call) : Call :=
  if (call.standing? (SideData.fieldOf cat r) r).any (isRecordMarked self) then
    match call with
    | .sidePut owner key v => (key.toKey?.map (Call.assign · v)).getD (.sidePut owner key v)
    | .sideFind owner key default =>
      (key.toKey?.map (Call.get · default)).getD (.sideFind owner key default)
    | call => call
  else call

/-- Makes a call on a record that has a mark itself and holds objects. -/
def Call.performShared (cat : Catalog) (self : Mark) (call : Call) : Act Record Answer := fun r =>
  let call := call.redirected cat self r
  let outcome := (call.perform cat).run r
  { outcome with state := call.spread (SideData.fieldOf cat r) r outcome.state }

/-- Whether a call leaves the sequences alone that stand in the fields a validator sees: what it assigns
to is none of them. -/
def Call.spares (cat : Catalog) (self : Mark) (call : Call) (r : Record) : Bool :=
  match call.redirected cat self r with
  | .sidePut owner key v =>
    ((Call.sidePut owner key v).standing? (SideData.fieldOf cat r) r).all fun entry =>
      (cat.visible r.header.type.id r.data).all fun e => !e.2.meetsSequence entry.isOne
  | _ => true

/-! ### Runs -/

/-- A call in a run: the catalog of its moment, and how containers are marked by then. -/
structure Turn where
  catalog : Catalog
  marking : Record → Record
  call : Call

/-- Makes the call of a turn. -/
def Turn.perform (self : Mark) (turn : Turn) : Act Record Answer := do
  modify turn.marking
  turn.call.performShared turn.catalog self

/-- Makes calls one after the other on a record that has a mark itself and holds objects. -/
def performAllShared (self : Mark) (turns : List Turn) : Act Record (List Answer) :=
  Act.inTurn (turns.map (Turn.perform self))

/-- Whether the call of a turn writes something with which the record is valid. -/
def Turn.validates (self : Mark) (turn : Turn) (r : Record) : Bool :=
  (turn.call.redirected turn.catalog self (turn.marking r)).validates turn.catalog (turn.marking r)

/-- Whether the call of a turn leaves the sequences alone that validators see. -/
def Turn.spares (self : Mark) (turn : Turn) (r : Record) : Bool :=
  turn.call.spares turn.catalog self (turn.marking r)

/-- Whether some call of a run validates. -/
def validatesAny (self : Mark) : List Turn → Record → Bool
  | [], _ => false
  | turn :: rest, r =>
    turn.validates self r || validatesAny self rest ((turn.perform self).run r).state

/-- Whether all calls of a run leave the sequences alone that validators see. -/
def sparesAll (self : Mark) : List Turn → Record → Bool
  | [], _ => true
  | turn :: rest, r => turn.spares self r && sparesAll self rest ((turn.perform self).run r).state

end Record

end TypedRecord
