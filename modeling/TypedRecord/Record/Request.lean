import TypedRecord.Record.Call

/-!
# TypedRecord.Record.Request

Whole runs of requests: records are made, data is validated, and records made before are called.

Records go by the places in which they were made. A request that fails answers its failure, and the run
goes on. As with calls, every request is made with the catalog of that moment.
-/

namespace TypedRecord

namespace Record

/-- What may be asked while records are made and used. With `checked`, a record is made of valid data
only. -/
inductive Request
  | make (checked : Bool) (t : TypeId) (data : Value) (mode : Mode) (validator : Option Validator)
      (registry : Option RegistryId) (sink : Sink)
  | validate (t : TypeId) (data : Value) (mode : Mode) (validator : Option Validator)
      (exhaustive : Bool)
  | call (place : Nat) (call : Call)
  deriving Inhabited

/-- What comes of a request. A record that is made is answered by the verdict on its data. -/
inductive Reply
  | made (verdict : Verdict)
  | judged (verdict : Verdict)
  | answered (answer : Answer)
  deriving Inhabited

/-- Something done to the record at a place. -/
def atPlace {α : Type} (place : Nat) (act : Act Record α) : Act (List Record) α := fun records =>
  match records[place]? with
  | none => ⟨records, [], .error .noVariable⟩
  | some r =>
    let outcome := act.run r
    ⟨records.set place outcome.state, outcome.notices, outcome.result⟩

namespace Request

/-- Meets a request. -/
def perform (cat : Catalog) : Request → Act (List Record) Reply
  | .make checked t data mode validator registry sink => do
    let maker := if checked then makeChecked else Record.make
    let (verdict, r) ← Act.lift (maker cat t data mode validator registry sink)
    modify fun records => records ++ [r]
    pure (.made verdict)
  | .validate t data mode validator exhaustive => do
    pure (.judged (← Act.lift (cat.validateData t data mode validator exhaustive)))
  | .call place asked => do pure (.answered (← atPlace place (asked.perform cat)))

/-- Meets requests one after the other, whether they fail or not. -/
def performAll (requests : List (Catalog × Request)) :
    Act (List Record) (List (Except Failure Reply)) :=
  Act.inTurn (requests.map fun c => Act.attempt (c.2.perform c.1))

end Request

end Record

end TypedRecord
