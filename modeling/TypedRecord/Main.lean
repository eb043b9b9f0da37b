import TypedRecord.CommandLine.Sources

/-!
# TypedRecord.Main

The program.

It takes a snapshot of the files and variables that its arguments may refer to, asks
`CommandLine.answer` what to do, and prints that.
-/

namespace TypedRecord

/-- A text as it is handed to the system. -/
def written (s : String) : String := String.ofList (Text.charsOf s)

/-- A text as it comes from the system. -/
def received (s : String) : String := Text.ofChars s.toList

/-- What a path names at this moment. -/
def snapshot (path : Path) : IO (Path × FileTree.Entry) := do
  try
    let content ← IO.FS.readBinFile (written path.text)
    pure (path, .file content.toList)
  catch e =>
    match e with
    | .inappropriateType none _ _ => pure (path, .directory)
    | .invalidArgument _ 36 _ => pure (path, .tooLong)
    | _ => pure (path, .missing)

/-- The variables that a run may look at, as far as they are set. -/
def readEnvironment : IO Environment :=
  CommandLine.variableNames.filterMapM fun name => do
    pure ((← IO.getEnv name).map fun value => (name, received value))

end TypedRecord

open TypedRecord in
def main (arguments : List String) : IO UInt32 := do
  let env ← readEnvironment
  let files : FileTree := { home := received (← IO.currentDir).toString }
  let arguments := arguments.map received
  let mentioned ← (CommandLine.mentionedPaths files env arguments).mapM snapshot
  let files := { files with noted := mentioned }
  let further ← (CommandLine.furtherPaths files env arguments).mapM snapshot
  let files := { files with noted := mentioned ++ further }
  let printed := CommandLine.answer files env arguments
  IO.print (written printed.out)
  IO.eprint (written printed.err)
  pure printed.exit.toUInt32
