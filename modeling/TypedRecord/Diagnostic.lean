import TypedRecord.Key
import TypedRecord.Verdict

/-!
# TypedRecord.Diagnostic

Reporting, as data.

Whatever an operation reports is a `Notice` in the trace it returns: an event that a collecting sink
has received, or a line for the log. A `Sink` decides which notices an event becomes, and may fail at
it; that a failing sink stops nothing is the business of whoever delivers the event (`Act.deliver`).
-/

namespace TypedRecord

/-- How serious an event is. -/
inductive Severity
  | info
  | warning
  | error
  deriving DecidableEq, Inhabited, Repr

/-- The word by which a severity is reported. -/
def Severity.word : Severity → String
  | info => "info"
  | warning => "warning"
  | error => "error"

/-- A structured report of a failure. `label` says where it happened. The field is a key of any kind,
since a note about a write names the field that was written. -/
structure Event where
  severity : Severity
  kind : IssueKind
  message : String
  field : Option Key := none
  expected : Option String := none
  actual : Option String := none
  label : Option String := none
  deriving DecidableEq, Inhabited

namespace Event

/-- The event that reports an issue. -/
def ofIssue (issue : Issue) (severity : Severity) (label : Option String) : Event where
  severity := severity
  kind := issue.kind
  message := issue.message
  field := issue.field.map Key.str
  expected := issue.expected
  actual := issue.actual
  label := label

/-- The event as one line; an empty label is left out. -/
def format (e : Event) : String :=
  match e.label with
  | none | some "" => e.message
  | some label => "[" ++ label ++ "] " ++ e.message

end Event

/-- The severity at which issues are reported in a mode. -/
def Mode.severity : Mode → Severity
  | .strict => .error
  | .loose => .warning

/-- How much a log line matters. -/
inductive LogLevel
  | debug
  | info
  | warning
  | error
  deriving DecidableEq, Inhabited, Repr

/-- The word by which a level is reported. -/
def LogLevel.word : LogLevel → String
  | debug => "debug"
  | info => "info"
  | warning => "warning"
  | error => "error"

/-- The level at which events of a severity are logged. -/
def Severity.level : Severity → LogLevel
  | info => .info
  | warning => .warning
  | error => .error

/-- The parts of the system that write to the log, each under a name of its own. -/
inductive LogSource
  | diagnostics
  | sinks
  | checks
  | registry
  | records
  | sideChannel
  | schemaFiles
  | settings
  deriving DecidableEq, Inhabited, Repr

/-- The name under which a part writes to the log. -/
def LogSource.name : LogSource → String
  | diagnostics => "recordguard.diagnostics"
  | sinks => "recordguard.validator.diagnostics"
  | checks => "recordguard.validator.core"
  | registry => "recordguard.validator.registry"
  | records => "recordguard.record.core"
  | sideChannel => "recordguard.record.namespaces"
  | schemaFiles => "recordguard.loaders"
  | settings => "recordguard.config.loader"

/-- A line for the log. -/
structure LogLine where
  level : LogLevel
  source : LogSource
  message : String
  deriving DecidableEq, Inhabited, Repr

/-- Where events go. A broken sink fails at every event. -/
inductive Sink
  | none
  | collecting
  | logging
  | broken
  deriving DecidableEq, Inhabited, Repr

/-- Something reported while an operation ran. -/
inductive Notice
  | collected (event : Event)
  | logged (line : LogLine)
  deriving DecidableEq, Inhabited

namespace Notice

/-- The event of a notice that a collecting sink received. -/
def event? : Notice → Option Event
  | collected event => some event
  | logged _ => none

/-- The line of a notice for the log. -/
def line? : Notice → Option LogLine
  | collected _ => none
  | logged line => some line

end Notice

end TypedRecord
