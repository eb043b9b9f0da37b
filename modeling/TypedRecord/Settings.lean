import TypedRecord.Act
import TypedRecord.Document
import TypedRecord.Shape
import TypedRecord.Text.Case

/-!
# TypedRecord.Settings

Settings, and where they come from.

Settings are a section of a YAML file. The file is named by the caller, or by the environment, or is
the one of the standard name in the working directory; without one everything has its default. The
environment overrides what the file says, also where the file would be refused.

Schema files are named relative to the settings file.
-/

namespace TypedRecord

/-- The settings. -/
structure Settings where
  validationEnabled : Bool := true
  defaultMode : Mode := .loose
  excerptSize : Nat := 2
  schemaFiles : List Path := []
  deriving DecidableEq, Inhabited, Repr

/-- The variables of an environment. -/
abbrev Environment : Type := List (String × String)

namespace Environment

/-- The value of a variable; the last one given counts. -/
def find? (env : Environment) (name : String) : Option String :=
  (List.find? (fun e => e.1 = name) env.reverse).map Prod.snd

/-- The value of a variable that is set to something. -/
def given? (env : Environment) (name : String) : Option String :=
  (env.find? name).filter (· ≠ "")

/-- Whether a flag is set; `default` if the variable is not, or is empty. -/
def flag (env : Environment) (name : String) (default : Bool := false) : Bool :=
  match env.given? name with
  | some value => ["1", "true", "yes"].contains (Text.lower value)
  | none => default

end Environment

namespace Settings

/-- The name of the settings file in the working directory. -/
def standardName : String := "recordguard.yml"

/-- The name of the section that holds the settings. -/
def sectionName : String := "recordguard"

/-- Reads a path. -/
def readPath (v : Value) : Shaped Path :=
  match v.text? with
  | some s => .ok (.ofText s)
  | none => Shape.refuse v .notPath

/-- Reads settings. -/
def read (v : Value) : Shaped Settings := do
  let entries ← Shape.members .settings v
  let enabled := Shape.member v entries "validation_enabled" (some true) Shape.flag
  let mode := Shape.member v entries "default_mode" (some .loose) (Shape.choice Mode.ofWord?)
  let size := Shape.member v entries "context_excerpt_size" (some 2) Shape.count
  let files := Shape.member v entries "schema_files" (some []) (Shape.list readPath)
  let others := Shape.noOthers entries
    ["validation_enabled", "default_mode", "context_excerpt_size", "schema_files"]
  let (enabled, mode, size, files, _) ←
    Shape.both enabled (Shape.both mode (Shape.both size (Shape.both files others)))
  .ok ⟨enabled, mode, size, files⟩

/-- What the environment says instead of the file. -/
def override (env : Environment) (entries : Entries Value) : Entries Value :=
  let entries :=
    if env.flag "RECORDGUARD_PRODUCTION" then
      entries.put (.str "validation_enabled") (.bool false)
    else entries
  match env.given? "RECORDGUARD_MODE" with
  | some mode => entries.put (.str "default_mode") (.str (String.ofList (Text.lowered mode.toList)))
  | none => entries

/-- Settings whose schema files are named relative to a directory. -/
def resolve (directory : Path) (s : Settings) : Settings :=
  { s with schemaFiles := s.schemaFiles.map directory.join }

/-- The settings as a log line shows them. -/
def shown (s : Settings) : String :=
  let mode := match s.defaultMode with
    | .strict => "<ValidationMode.STRICT: 'strict'>"
    | .loose => "<ValidationMode.LOOSE: 'loose'>"
  "validation_enabled=" ++ (if s.validationEnabled then "True" else "False") ++
    " default_mode=" ++ mode ++ " context_excerpt_size=" ++ toString s.excerptSize ++
    " schema_files=[" ++
    commaSeparated (s.schemaFiles.map fun p => "PosixPath(" ++ Text.quote p.text ++ ")") ++ "]"

/-- The settings file: the one that is asked for, the one the environment names, or the standard one
if it is there. -/
def locate (files : FileTree) (env : Environment) (path : Option Path) : Option Path :=
  match path, env.given? "RECORDGUARD_CONFIG" with
  | some path, _ => some path
  | none, some named => some (.ofText named)
  | none, none =>
    let standard := files.homePath standardName
    if files.has standard then some standard else none

/-- The document in a settings file. -/
def readFile (files : FileTree) (path : Path) : Except Failure Value := do
  let source := Yaml.Source.ofBytes (← Document.bytesOf files path)
  source.read.mapError fun failure =>
    match failure with
    | .malformedYaml => .malformedSettingsYaml path.text
    | failure => failure

/-- The section of the settings in a file. -/
def readSection (files : FileTree) (path : Path) : Traced (Entries Value) := do
  let document ← Act.ofExcept (readFile files path)
  if !document.truthy then
    Act.log .info .settings "Empty recordguard config file, using default settings"
    pure []
  else
    match document with
    | .dict _ entries =>
      match (Entries.find? (.str sectionName) entries).getD (.dict none []) with
      | .dict _ section' => pure section'
      | _ => throw (.sectionNotMapping path.text)
    | _ => throw (.settingsNotMapping path.text)

/-- Loads the settings. -/
def load (files : FileTree) (env : Environment) (path : Option Path) : Traced Settings := do
  let location := locate files env path
  let entries ←
    match location with
    | none => do
      Act.log .info .settings "No recordguard config file found, using default settings"
      pure []
    | some path => do
      Act.ofExcept (Document.present files path (.settingsNotFound path.text))
      Act.log .debug .settings ("Loading recordguard config from: " ++ path.text)
      readSection files path
  let settings ← Act.ofExcept <|
    (read (.dict none (override env entries))).mapError fun
      | .refused refusals => .refusedSettings refusals
      | .unencodable fault => .unencodable fault
  let settings := match location with
    | some path => settings.resolve path.parent
    | none => settings
  if !isWritableInt settings.excerptSize then throw .unwritable
  Act.log .debug .settings ("Loaded recordguard settings: " ++ settings.shown)
  pure settings

/-- The validator that follows settings. -/
def validator (s : Settings) (registry : Option RegistryId) (sink : Sink) : Validator where
  registry := registry
  sink := sink
  enabled := s.validationEnabled
  excerpt := s.excerptSize

end Settings

end TypedRecord
