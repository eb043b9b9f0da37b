import TypedRecord.Record.SideData

/-!
# TypedRecord.Record.Call

Calls on a record as data, so that runs of calls can be spoken of.

A run takes every call with the catalog of that moment, since types and registries may change in
between. It ends at the first call that fails.
-/

namespace TypedRecord

namespace Record

/-- What may be asked of a record. `assign` writes a field as `set` does and drops the answer. -/
inductive Call
  | set (field : Key) (v : Value)
  | assign (field : Key) (v : Value)
  | update (fields : Entries Value)
  | get (field : Key) (default : Value)
  | getPresent (field : Key)
  | sidePut (owner key v : Value)
  | sideFind (owner key default : Value)
  | sideHas (owner : Value)
  | sideAll (owner : Value)
  | sideClear (owner : Value)
  | sideOwners
  deriving Inhabited

/-- What a call answers. -/
inductive Answer
  | nothing
  | flag (b : Bool)
  | value (v : Value)
  | entries (es : Entries Value)
  | keys (ks : List Key)
  deriving Inhabited

/-- Makes a call. -/
def Call.perform (cat : Catalog) : Call → Act Record Answer
  | .set field v => do pure (.flag (← Record.set cat field v))
  | .assign field v => do
    let _ ← Record.set cat field v
    pure .nothing
  | .update fields => do pure (.flag (← Record.update cat fields))
  | .get field default => do pure (.value (← Record.get cat field default))
  | .getPresent field => do pure (.value (← Record.getPresent cat field))
  | .sidePut owner key v => do
    SideData.put cat owner key v
    pure .nothing
  | .sideFind owner key default => do pure (.value (← SideData.find cat owner key default))
  | .sideHas owner => do pure (.flag (← SideData.has cat owner))
  | .sideAll owner => do pure (.entries (← SideData.all cat owner))
  | .sideClear owner => do
    SideData.clear cat owner
    pure .nothing
  | .sideOwners => do pure (.keys (SideData.owners cat (← MonadState.get)))

/-- The write that a call makes, if it makes one. -/
def Call.write? (cat : Catalog) : Call → Option (Act Record Bool)
  | .set field v | .assign field v => some (Record.set cat field v)
  | .update fields => some (Record.update cat fields)
  | _ => none

/-- What the write of a call stores, before anything is judged. -/
def Call.stores (cat : Catalog) : Call → Act Record Unit
  | .set field v | .assign field v => store cat field v
  | .update fields => storeAll cat fields
  | _ => pure ()

/-- Whether a call writes something with which the record is valid. -/
def Call.validates (cat : Catalog) (call : Call) (r : Record) : Bool :=
  match call.write? cat with
  | some act =>
    match (act.run r).result with
    | .ok valid => valid
    | .error _ => false
  | none => false

/-- Makes calls one after the other. -/
def performAll (calls : List (Catalog × Call)) : Act Record (List Answer) :=
  Act.inTurn (calls.map fun c => c.2.perform c.1)

/-- The record that calls leave, made one after the other, whether or not they come to an end. -/
def after (r : Record) : List (Catalog × Call) → Record
  | [] => r
  | (cat, call) :: rest => ((call.perform cat).run r).state.after rest

end Record

/-! ### Runs in which schemas move -/

/-- A record among the types that it is judged by. -/
structure Scene where
  catalog : Catalog
  record : Record
  deriving Inhabited

namespace Scene

/-- What may happen to a record: it is called, or some type is extended or loses its extensions. -/
inductive Action
  | call (request : Record.Call)
  | extend (t : TypeId) (fields : Schema)
  | reset (t : TypeId)
  deriving Inhabited

/-- Something done to the record, given the catalog. -/
def onRecord {α : Type} (act : Catalog → Act Record α) : Act Scene α := fun s =>
  let outcome := (act s.catalog).run s.record
  ⟨{ s with record := outcome.state }, outcome.notices, outcome.result⟩

/-- Something done to the catalog. -/
def onCatalog {α : Type} (act : Act Catalog α) : Act Scene α :=
  Act.zoom Scene.catalog (fun cat s => { s with catalog := cat }) act

/-- Lets something happen. -/
def Action.perform : Action → Act Scene Record.Answer
  | .call request => onRecord fun cat => request.perform cat
  | .extend t fields => do
    onCatalog (Catalog.extend t fields)
    pure .nothing
  | .reset t => do
    onCatalog (Catalog.resetExtensions t)
    pure .nothing

/-- Lets things happen one after the other. -/
def performAll (actions : List Action) : Act Scene (List Record.Answer) :=
  Act.inTurn (actions.map Action.perform)

/-- Whether an answer is that of a write that was refused. -/
def Action.isRefused : Action → Record.Answer → Bool
  | .call (.set _ _), .flag valid | .call (.update _), .flag valid => !valid
  | _, _ => false

/-- A run without the writes that were refused. -/
def withoutRefused (actions : List Action) (answers : List Record.Answer) :
    List (Action × Record.Answer) :=
  (actions.zip answers).filter fun e => !e.1.isRefused e.2

end Scene

end TypedRecord
