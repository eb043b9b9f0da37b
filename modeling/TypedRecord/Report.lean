import TypedRecord.Construction
import TypedRecord.Printing

/-!
# TypedRecord.Report

The report on a list of documents.

Every document gets one entry, in order: whether it is a valid record of the type, and its issues if
it is not. A document that is no mapping is not even tried. The text for readers opens with the
counts, then lists the failed entries with their issues, then the valid ones.

A report for machines is a value (`Judgements.toValue`), and from such a value the text for readers can
be made as well (`Report.read`).
-/

namespace TypedRecord

/-- A line of a report about one issue. -/
structure ReportedIssue where
  kind : String
  message : String
  deriving DecidableEq, Inhabited, Repr

/-- What a report says about one document: its index, as it is shown, whether the document is valid,
and what is wrong with it. -/
structure ReportEntry where
  index : String
  isOk : Bool
  issues : List ReportedIssue
  deriving DecidableEq, Inhabited, Repr

/-- A report as it is shown to readers. -/
structure Report where
  schema : String
  mode : String
  entries : List ReportEntry
  deriving DecidableEq, Inhabited, Repr

/-- The status of a document that is a valid record. -/
def statusOk : String := "ok"

/-- The status of a document that is none. -/
def statusError : String := "error"

/-- The lines about one failed entry. -/
def ReportEntry.failureLines (e : ReportEntry) : List String :=
  s!"  ✗ #{e.index}" :: e.issues.map fun issue => s!"    {issue.kind}: {issue.message}"

/-- A section of the report: a blank line, a heading and the lines; nothing if there are none. -/
def titled (heading : String) (lines : List String) : List String :=
  if lines = [] then [] else "" :: heading :: lines

/-- The report for readers. -/
def Report.text (r : Report) : String :=
  if r.entries = [] then "No records found to validate"
  else
    let valid := r.entries.filter ReportEntry.isOk
    let failed := r.entries.filter fun e => !e.isOk
    let header := s!"Validated {r.entries.length} records against {r.schema} ({r.mode} mode): " ++
      s!"{valid.length} valid, {failed.length} failed"
    "\n".intercalate (header ::
      titled "Failed records:" (failed.flatMap ReportEntry.failureLines) ++
      titled "Valid records:" (valid.map fun e => s!"  ✓ #{e.index}"))

/-! ### Reporting on documents -/

/-- The judgement on one document: not a mapping, or the verdict on it. -/
inductive Judgement
  | notMapping
  | judged (verdict : Verdict)
  deriving DecidableEq, Inhabited, Repr

/-- Whether a document was found valid. -/
def Judgement.isOk : Judgement → Bool
  | notMapping => false
  | judged verdict => verdict.valid

/-- The judgements on documents and what they were judged by. -/
structure Judgements where
  schema : String
  mode : Mode
  list : List Judgement
  deriving DecidableEq, Inhabited, Repr

/-- Whether a document is a writable mapping, which is what documents are made of. -/
def Value.isDict : Value → Bool
  | .dict _ _ => true
  | _ => false

/-- Judges one document as a record of a type. -/
def judgeDocument (cat : Catalog) (t : TypeId) (mode : Mode) (v : Validator) (exhaustive : Bool)
    (document : Value) : Traced Judgement :=
  if document.isDict then do
    pure (.judged (← cat.validateData t document mode (some v) exhaustive))
  else pure .notMapping

/-- Judges documents one after the other, each by the same way to judge one. -/
def judgeDocuments (cat : Catalog) (t : TypeId) (mode : Mode) (judge : Value → Traced Judgement)
    (documents : List Value) : Traced Judgements := do
  let list ← Act.inTurn (documents.map judge)
  pure ⟨(cat.typeAt t).schemaName, mode, list⟩

/-- The wording for a document that is no mapping. -/
def notMappingMessage (index : Nat) : String := s!"Record {index} is not a mapping"

/-- What a report says about the document at an index. -/
def Judgement.entry (index : Nat) (j : Judgement) : ReportEntry where
  index := toString index
  isOk := j.isOk
  issues := match j with
    | notMapping => [⟨IssueKind.typeMismatch.word, notMappingMessage index⟩]
    | judged verdict => verdict.issues.map fun issue => ⟨issue.kind.word, issue.message⟩

/-- The report on judgements. -/
def Judgements.report (js : Judgements) : Report where
  schema := js.schema
  mode := js.mode.word
  entries := js.list.mapIdx Judgement.entry

/-- A text that may be missing, as a value. -/
def Value.ofText? (s : Option String) : Value := (s.map Value.str).getD .nil

/-- A step of the way to a failure, as a value. -/
def PathStep.toValue : PathStep → Value
  | field name => .str name
  | index i => .int i

/-- An issue as a value. -/
def Issue.toValue (issue : Issue) : Value := .ofFields [
  ("kind", .str issue.kind.word),
  ("field", .ofText? issue.field),
  ("expected", .ofText? issue.expected),
  ("actual", .ofText? issue.actual),
  ("path", .list none (issue.path.map PathStep.toValue)),
  ("message", .str issue.message),
  ("context", .ofFields (Named.ofList (issue.context.map fun c =>
    (Text.withUnitsReplaced c.1, .str c.2))))]

/-- What a report for machines says about the document at an index. -/
def Judgement.toValue (index : Nat) (j : Judgement) : Value :=
  let issues := match j with
    | notMapping => [.ofFields [("kind", .str IssueKind.typeMismatch.word),
        ("message", .str (notMappingMessage index))]]
    | judged verdict => verdict.issues.map Issue.toValue
  .ofFields [
    ("index", .int index),
    ("status", .str (if j.isOk then statusOk else statusError)),
    ("issues", .list none issues)]

/-- The report for machines. -/
def Judgements.toValue (js : Judgements) : Value := .ofFields [
  ("schema", .str js.schema),
  ("mode", .str js.mode.word),
  ("validated", .list none (js.list.mapIdx Judgement.toValue))]

/-! ### Reports for machines -/

namespace Report

/-- The member of a report, or of a part of one, under a name. -/
def member (name : String) : Value → Except Failure Value
  | .dict _ entries =>
    match Entries.find? (.str name) entries with
    | some v => .ok v
    | none => .error (.incompleteReport name)
  | _ => .error .wrongKind

/-- The items of a part of a report. -/
def rows (v : Value) : Except Failure (List Value) :=
  match v.elements? with
  | some items => .ok items
  | none => .error .wrongKind

/-- Reads whether an entry is about a valid document. -/
def readStatus (entry : Value) : Except Failure Bool := do
  pure ((← member "status" entry).text? = some statusOk)

/-- Reads an issue. -/
def readIssue (issue : Value) : Except Failure ReportedIssue := do
  let kind ← member "kind" issue
  let message ← member "message" issue
  pure ⟨kind.plainText, message.plainText⟩

/-- Reads an entry. Of a valid one the issues are not looked at. -/
def readEntry (isOk : Bool) (entry : Value) : Except Failure ReportEntry := do
  let index ← member "index" entry
  let issues ← if isOk then pure [] else (← rows (← member "issues" entry)).mapM readIssue
  pure ⟨index.plainText, isOk, issues⟩

/-- Reads a report; its entries are read in the order in which they are shown. -/
def read (v : Value) : Except Failure Report := do
  let validated ← member "validated" v
  if !validated.truthy then pure ⟨"", "", []⟩
  else
    let entries ← (← rows validated).mapM fun e => do pure (← readStatus e, e)
    let schema ← member "schema" v
    let mode ← member "mode" v
    let failed ← (entries.filter fun e => !e.1).mapM fun e => readEntry false e.2
    let valid ← (entries.filter fun e => e.1).mapM fun e => readEntry true e.2
    pure ⟨schema.plainText, mode.plainText, failed ++ valid⟩

end Report

/-- The documents that a data document holds: the items of a list, or else the document itself. -/
def Value.documents : Value → List Value
  | .list _ items => items
  | v => [v]

/-- Whether every document was found valid. -/
def Judgements.allOk (js : Judgements) : Bool := js.list.all Judgement.isOk

end TypedRecord
