import TypedRecord.CommandLine.Run

/-!
# TypedRecord.CommandLine.Sources

Which files and variables a run may look at.

A run is a function of the files it sees. These lists are long enough that nothing a run looks for is
missing from a snapshot of them; which of them it does look for is decided by the run.
-/

namespace TypedRecord.CommandLine

/-- The variables that a run may look at. -/
def variableNames : List String :=
  ["RECORDGUARD_CONFIG", "RECORDGUARD_DEBUG", "RECORDGUARD_MODE", "RECORDGUARD_PRODUCTION"]

/-- The paths that are known before anything is read: whatever arguments and environment may name, and
the settings file of the working directory. -/
def mentionedPaths (files : FileTree) (env : Environment) (arguments : List String) : List Path :=
  let given := arguments.flatMap fun word => word :: (splitValue word).2.toList
  let settings := (env.find? "RECORDGUARD_CONFIG").toList
  files.homePath Settings.standardName :: (given ++ settings).map .ofText

/-- The schema files that the settings name. -/
def furtherPaths (files : FileTree) (env : Environment) (arguments : List String) : List Path :=
  match Request.read files arguments with
  | .error _ => []
  | .ok request =>
    match ((Settings.load files env (request.common?.bind Common.config)).run ()).result with
    | .ok settings => settings.schemaFiles
    | .error _ => []

end TypedRecord.CommandLine
