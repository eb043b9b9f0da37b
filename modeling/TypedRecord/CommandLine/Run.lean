import TypedRecord.CommandLine.Request
import TypedRecord.Introspection
import TypedRecord.Report
import TypedRecord.SchemaFile
import TypedRecord.Settings

/-!
# TypedRecord.CommandLine.Run

Running a request.

`answer` is the whole program as a function: from arguments, files and environment to what is printed
and the exit code. The log goes where complaints go, before them. The exit code is 0 if everything is
well, 1 if a record is not valid or the command failed, and 2 if the arguments make no sense.
-/

namespace TypedRecord.CommandLine

/-- What the program prints, and its exit code; and if it stopped without a word, the category of what
stopped it. -/
structure Printed where
  out : String := ""
  err : String := ""
  exit : Nat := 0
  stopped : Option String := none
  deriving DecidableEq, Inhabited, Repr

/-! ### The log -/

/-- How a level is written in the log. -/
def levelMark : LogLevel → String
  | .debug => "DEBUG"
  | .info => "INFO"
  | .warning => "WARNING"
  | .error => "ERROR"

/-- Whether a line is worth writing when no details are asked for. -/
def isGrave (line : LogLine) : Bool :=
  match line.level with
  | .warning | .error => true
  | .debug | .info => false

/-- The log of a run. -/
def logText (details : Bool) (notices : List Notice) : String :=
  let lines := (notices.filterMap Notice.line?).filter fun line => details || isGrave line
  String.join (lines.map fun line =>
    levelMark line.level ++ ":" ++ line.source.name ++ ":" ++ line.message ++ "\n")

/-! ### Commands -/

/-- The texts that a command prints, one after the other, and whether all is well. -/
structure Answer where
  parts : List String
  ok : Bool := true
  deriving DecidableEq, Inhabited, Repr

/-- A registry filled from the schema files that are given, or else from those that the settings
name. -/
def registryFrom (files : FileTree) (settings : Settings) (given : List Path) :
    Act Catalog RegistryId := do
  let paths := if given = [] then settings.schemaFiles else given
  if paths = [] then throw .noSchemaFiles
  let r ← modifyGet fun cat =>
    let (cat, r) := cat.addRegistry
    (r, cat)
  SchemaFile.loadAll files (paths.map Path.written) r
  pure r

/-- The record type that schema files declare under a name. -/
def declaredType (r : RegistryId) (name : String) : Act Catalog TypeId := do
  let registry := (← get).registryAt r
  match registry.find? name with
  | some (.type t) => pure t
  | _ => throw (.schemaNotDeclared name registry.sortedNames)

/-- The description of every record type in a registry, with its name. -/
def describeAll (cat : Catalog) (r : RegistryId) :
    Except Failure (List (String × SchemaDescription)) :=
  (cat.registryAt r).sortedNames.mapM fun name => do
    match ← cat.factory r name with
    | .type t => .ok (name, ← describe (cat.typeAt t))
    | _ => .error .unsupportedOperation

/-- The listing of record types. -/
def listingText (json : Bool) (types : List (String × SchemaDescription)) :
    Except Failure (List String) :=
  if json then do
    let row (t : String × SchemaDescription) : Value := .ofFields [
      ("name", .str t.1),
      ("fields", .int t.2.fields.length),
      ("extended_fields", .int t.2.extendedSchema.length),
      ("extendable", .bool t.2.isExtendable)]
    .ok [← printResult (.list none (types.map row)) true]
  else if types = [] then .ok [textLine "No schemas found"]
  else
    let row (t : String × SchemaDescription) : String :=
      t.1 ++ s!" ({t.2.fields.length} fields, {t.2.extendedSchema.length} extended)"
    .ok (types.map fun t => textLine (row t))

/-! ### Judging a data file -/

/-- What the records of a data file are judged by. -/
structure Inspection where
  cat : Catalog
  type : TypeId
  mode : Mode
  validator : Validator
  exhaustive : Bool

namespace Inspection

/-- What a request has the records judged by. -/
def ofRequest (files : FileTree) (env : Environment) (schema : String) (mode : Option Mode)
    (exhaustive : Bool) (common : Common) : Act Catalog Inspection := do
  let settings ← Act.lift (Settings.load files env common.config)
  let r ← registryFrom files settings common.schemaFiles
  let t ← declaredType r schema
  pure ⟨← get, t, mode.getD settings.defaultMode, settings.validator (some r) .none, exhaustive⟩

/-- Judges one record. A mapping is copied for that, which not every one can be. -/
def judge (i : Inspection) (record : Value) : Traced Judgement := do
  if record.isDict then
    let _ ← Act.ofExcept (Document.copyable record)
  judgeDocument i.cat i.type i.mode i.validator i.exhaustive record

/-- The judgements on the records in a file. -/
def results (i : Inspection) (files : FileTree) (path : Path) : Traced Judgements := do
  let document ← Act.ofExcept (Document.load files path i.cat.depth)
  judgeDocuments i.cat i.type i.mode i.judge document.documents

end Inspection

/-- Runs a request; none are left but those of commands. -/
def execute (files : FileTree) (env : Environment) : Request → Act Catalog Answer
  | .help topic => pure ⟨[topic.page.text], true⟩
  | .listSchemas common => do
    let settings ← Act.lift (Settings.load files env common.config)
    let r ← registryFrom files settings common.schemaFiles
    let types ← Act.ofExcept (describeAll (← get) r)
    pure ⟨← Act.ofExcept (listingText common.json types), true⟩
  | .validate schema data mode exhaustive common => do
    let inspection ← Inspection.ofRequest files env schema mode exhaustive common
    let judgements ← Act.lift (inspection.results files data)
    let text ← Act.ofExcept <|
      if common.json then printResult judgements.toValue true
      else .ok (textLine judgements.report.text)
    pure ⟨[text], judgements.allOk⟩

/-! ### The program -/

/-- What both commands are asked for. -/
def Request.common? : Request → Option Common
  | .help _ => none
  | .listSchemas common | .validate _ _ _ _ common => some common

/-- What is printed about a command that failed. -/
def printFailure (manual : Refusal.Manual) (common : Common) (log : String) (failure : Failure) :
    Printed :=
  let lines := if common.json then "" else failureLines manual failure common.debug
  { out :=
      if common.json then
        ((printJson (failureDocument manual failure common.debug)).toOption).getD ""
      else ""
    err := log ++ lines ++ "Aborted!\n"
    exit := 1 }

/-- Texts one after the other, as far as they can be written, and what stops them. -/
def printParts : List String → String × Option Failure
  | [] => ("", none)
  | part :: rest =>
    match Text.encodingFault? part with
    | some fault => ("", some (.unencodable fault))
    | none =>
      let (more, stop) := printParts rest
      (part ++ more, stop)

/-- Runs a request on its own. -/
def perform (manual : Refusal.Manual) (files : FileTree) (env : Environment) (request : Request) :
    Printed :=
  let outcome := (execute files env request).run {}
  let common := request.common?.getD default
  let log := logText (common.debug || env.flag "RECORDGUARD_DEBUG") outcome.notices
  match outcome.result with
  | .error failure => printFailure manual common log failure
  | .ok answer =>
    match printParts answer.parts with
    | (out, none) => { out := out, err := log, exit := if answer.ok then 0 else 1 }
    | (out, some failure) =>
      let complaint := printFailure manual common log failure
      { complaint with out := out ++ complaint.out }

/-- The manual that is installed with the program: a page for every reason but one. -/
def installedManual : Refusal.Manual
  | .notPath => none
  | reason => some ("/".intercalate ["https:", "", "errors.pydantic.dev", "2.11", "v", reason.word])

/-- What the program does with arguments. Complaints can always be written: lone units are escaped in
them. -/
def answer (files : FileTree) (env : Environment) (arguments : List String)
    (manual : Refusal.Manual := installedManual) : Printed :=
  let printed : Printed := match Request.read files arguments with
    | .ok request => perform manual files env request
    | .error (topic, fault) =>
      match fault.silent? with
      | some category => { exit := 1, stopped := some category }
      | none => { err := fault.text topic, exit := 2 }
  { printed with err := Text.withUnitsEscaped printed.err }

end TypedRecord.CommandLine
