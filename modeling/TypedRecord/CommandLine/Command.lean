import TypedRecord.CommandLine.Page

/-!
# TypedRecord.CommandLine.Command

What can be asked for at the command line.

The program has two commands, one to validate the records in a file and one to list record types.
Each takes arguments, in order, and options, anywhere. The help pages are made from the same tables
that arguments are read by.
-/

namespace TypedRecord.CommandLine

/-- The name that the program goes by. -/
def programName : String := "cli"

/-- The names of options. -/
inductive OptionName
  | schemas
  | config
  | strict
  | loose
  | exhaustive
  | jsonOutput
  | debug
  | help
  deriving DecidableEq, Inhabited, Repr

namespace OptionName

/-- How an option is written. -/
def spelling : OptionName → String
  | schemas => "--schemas"
  | config => "--config"
  | strict => "--strict"
  | loose => "--loose"
  | exhaustive => "--exhaustive"
  | jsonOutput => "--json-output"
  | debug => "--debug"
  | help => "--help"

/-- What stands in the help for the value of an option; none for options without one. -/
def placeholder? : OptionName → Option String
  | schemas => some "FILE"
  | config => some "PATH"
  | _ => none

/-- Whether an option has a value. -/
def takesValue (o : OptionName) : Bool := o.placeholder?.isSome

end OptionName

/-- Options that are described together: one, or two that exclude each other. -/
structure OptionRow where
  names : List OptionName
  about : String
  deriving DecidableEq, Inhabited, Repr

/-- A row of options as the help shows it. -/
def OptionRow.shown (row : OptionRow) : String × String :=
  let name (o : OptionName) := o.spelling ++ (o.placeholder?.map (" " ++ ·)).getD ""
  (" / ".intercalate (row.names.map name), row.about)

/-- The commands. -/
inductive Command
  | schemas
  | validate
  deriving DecidableEq, Inhabited, Repr

/-- The row of the option that asks for help. -/
def helpRow : OptionRow := ⟨[.help], "Show this message and exit."⟩

namespace Command

/-- All commands, in the order of their names. -/
def all : List Command := [schemas, validate]

/-- The name of a command. -/
def name : Command → String
  | schemas => "schemas"
  | validate => "validate"

/-- The command with a name. -/
def named? (name : String) : Option Command := all.find? fun c => c.name = name

/-- The arguments of a command, as the help shows them. -/
def arguments : Command → List String
  | schemas => []
  | validate => ["SCHEMA_NAME", "DATA_FILE"]

/-- What a command does, in a sentence. -/
def summary : Command → String
  | schemas => "List the record types declared in schema files."
  | validate => "Validate records in a YAML or JSON file against a schema."

/-- What else there is to say about a command. Examples share a paragraph with their heading. -/
def remarks : Command → List String
  | schemas => [
      "Examples:     recordguard schemas --schemas game.yml     " ++
        "recordguard schemas --json-output"]
  | validate => [
      "DATA_FILE holds a single record or a list of records.",
      "Examples:     recordguard validate Player players.yml --schemas game.yml     " ++
        "recordguard validate Player hero.json --schemas game.yml --strict     " ++
        "recordguard validate Player players.yml --exhaustive --json-output"]

/-- The options of a command, as the help shows them. -/
def options (c : Command) : List OptionRow :=
  let files : List OptionRow := [
    ⟨[.schemas], "Schema-definition file (repeatable)"⟩,
    ⟨[.config], "Settings file"⟩]
  let validation : List OptionRow := match c with
    | schemas => []
    | validate => [
        ⟨[.strict, .loose], "Validation mode (default from settings)"⟩,
        ⟨[.exhaustive], "Report every failure, not just the first"⟩]
  files ++ validation ++ [
    ⟨[.jsonOutput], "Output in JSON format"⟩,
    ⟨[.debug], "Show detailed debug information"⟩,
    helpRow]

end Command

/-- Whatever has a help page: the program, or one of its commands. -/
abbrev Topic : Type := Option Command

namespace Topic

/-- How a topic is invoked, without arguments. -/
def invocation : Topic → String
  | none => programName
  | some c => programName ++ " " ++ c.name

/-- The options that a topic knows. -/
def optionNames : Topic → List OptionName
  | none => helpRow.names
  | some c => c.options.flatMap OptionRow.names

/-- The help page of a topic. -/
def page : Topic → Page
  | none => {
      usage := invocation none ++ " [OPTIONS] COMMAND [ARGS]..."
      paragraphs := ["recordguard CLI"]
      tables := [
        ("Options", [helpRow.shown]),
        ("Commands", Command.all.map fun c => (c.name, c.summary))] }
  | some c => {
      usage := " ".intercalate (invocation (some c) :: "[OPTIONS]" :: c.arguments)
      paragraphs := c.summary :: c.remarks
      tables := [("Options", c.options.map OptionRow.shown)] }

end Topic

end TypedRecord.CommandLine
