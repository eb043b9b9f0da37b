import TypedRecord.CommandLine.Complaint
import TypedRecord.FileTree
import TypedRecord.Text.Alike

/-!
# TypedRecord.CommandLine.Request

What arguments ask for.

Reading goes from left to right and first separates options from other words (`readWords`). Whatever
is wrong with an option is found there, so it is found before help is given. Only then are the words
taken for arguments.
-/

namespace TypedRecord.CommandLine

/-- What is asked for with both commands. -/
structure Common where
  schemaFiles : List Path
  config : Option Path
  json : Bool
  debug : Bool
  deriving DecidableEq, Inhabited, Repr

/-- What is asked for. -/
inductive Request
  | help (topic : Topic)
  | listSchemas (common : Common)
  | validate (schema : String) (data : Path) (mode : Option Mode) (exhaustive : Bool)
      (common : Common)
  deriving DecidableEq, Inhabited, Repr

/-! ### Options -/

/-- Arguments with the options, and their values, set apart from the other words. -/
structure Words where
  options : List (OptionName × String) := []
  others : List String := []
  deriving DecidableEq, Inhabited, Repr

namespace Words

/-- Whether an option is given. -/
def has (w : Words) (o : OptionName) : Bool := w.options.any fun e => e.1 = o

/-- Whether one option is given before another one, or without it. -/
def givesFirst (w : Words) (o other : OptionName) : Bool :=
  match w.options.find? fun e => e.1 = o || e.1 = other with
  | some e => e.1 = o
  | none => false

/-- All values given for an option. -/
def values (w : Words) (o : OptionName) : List String :=
  w.options.filterMap fun e => if e.1 = o then some e.2 else none

/-- The words with an option in front. -/
def withOption (o : OptionName) (value : String) (w : Words) : Words :=
  { w with options := (o, value) :: w.options }

/-- The words with another word in front. -/
def withOther (word : String) (w : Words) : Words := { w with others := word :: w.others }

end Words

/-- Whether a word is written like an option. -/
def isOption (word : String) : Bool :=
  match word.toList with
  | '-' :: _ :: _ => true
  | _ => false

/-- A word up to its equals sign, and the rest behind it. -/
def splitValue (word : String) : String × Option String :=
  let cs := word.toList
  let name := String.ofList (cs.takeWhile (· != '='))
  match cs.dropWhile (· != '=') with
  | [] => (name, none)
  | _ :: value => (name, some (String.ofList value))

/-- The option that a word is, with the value attached to it. Options have long names only; a word
with a single hyphen is refused by its first character. -/
def readOption (known : List OptionName) (word : String) :
    Except UsageFault (OptionName × Option String) :=
  let (name, value) := splitValue word
  match known.find? fun o => o.spelling = name, word.toList with
  | some o, _ => .ok (o, value)
  | none, '-' :: '-' :: _ =>
    .error (.unknownOption name (Text.closest name (known.map OptionName.spelling)))
  | none, _ => .error (.unknownOption (Text.take 2 word) [])

/-- Sets options apart. Two hyphens end the options. Without `mixed`, so does the first word that is
none. -/
def readWords (known : List OptionName) (mixed : Bool) : List String → Except UsageFault Words
  | [] => .ok {}
  | word :: rest =>
    if word = "--" then .ok { others := rest }
    else if isOption word then
      match readOption known word with
      | .error fault => .error fault
      | .ok (o, attached) =>
        match o.takesValue, attached, rest with
        | false, none, rest => (readWords known mixed rest).map (Words.withOption o "")
        | false, some _, _ => .error (.unwantedValue o)
        | true, some value, rest => (readWords known mixed rest).map (Words.withOption o value)
        | true, none, value :: rest => (readWords known mixed rest).map (Words.withOption o value)
        | true, none, [] => .error (.missingValue o)
    else if mixed then (readWords known mixed rest).map (Words.withOther word)
    else .ok { others := word :: rest }

/-! ### Arguments -/

/-- A path that a file can have. Null characters and most lone units cannot stand in one. -/
def readPath (path : String) : Except UsageFault Path :=
  let stranger (n : Nat) := Text.isSurrogate n && (n < 0xDC80 || 0xDCFF < n)
  if (Text.pointsOf path).any stranger then .error (.impossiblePath "UnicodeEncodeError")
  else if path.toList.contains '\x00' then .error (.impossiblePath "ValueError")
  else .ok (.ofText path)

/-- A path where a file is expected. A path that names nothing is let pass. -/
def readFilePath (files : FileTree) (place path : String) : Except UsageFault Path := do
  let p ← readPath path
  if path ≠ "" ∧ files.look p = .directory then .error (.directoryGiven place path) else .ok p

/-- What is asked for with both commands. The option that is given first is looked at first. -/
def readCommon (files : FileTree) (w : Words) : Except UsageFault Common := do
  let readSchemas := (w.values .schemas).mapM (readFilePath files OptionName.schemas.spelling)
  let readConfig := (w.values .config).getLast?.mapM readPath
  let (schemaFiles, config) ←
    if w.givesFirst .config .schemas then do
      let config ← readConfig
      pure (← readSchemas, config)
    else do
      let schemaFiles ← readSchemas
      pure (schemaFiles, ← readConfig)
  .ok {
    schemaFiles := schemaFiles
    config := config
    json := w.has .jsonOutput
    debug := w.has .debug }

/-- The mode that is asked for last. -/
def readMode (w : Words) : Option Mode :=
  (w.options.filterMap fun e =>
    match e.1 with
    | .strict => some Mode.strict
    | .loose => some Mode.loose
    | _ => none).getLast?

/-- Nothing is left over. -/
def noMore : List String → Except UsageFault Unit
  | [] => .ok ()
  | extra => .error (.extraArguments extra)

/-- What is asked of a command. -/
def readCommand (files : FileTree) (c : Command) (arguments : List String) :
    Except UsageFault Request := do
  let w ← readWords (Topic.optionNames (some c)) true arguments
  if w.has .help then .ok (.help (some c))
  else
    let common ← readCommon files w
    match c, w.others with
    | .schemas, rest => do
      noMore rest
      .ok (.listSchemas common)
    | .validate, schema :: data :: rest => do
      let data ← readFilePath files "DATA_FILE" data
      noMore rest
      .ok (.validate schema data (readMode w) (w.has .exhaustive) common)
    | .validate, [_] => .error (.missingArgument "DATA_FILE")
    | .validate, [] => .error (.missingArgument "SCHEMA_NAME")

/-- What is asked of the program. A fault comes with the topic it is about. Without a command, help is
given; a word in the place of a command may still be an option. -/
def Request.read (files : FileTree) (arguments : List String) :
    Except (Topic × UsageFault) Request := do
  let general (arguments : List String) : Except (Topic × UsageFault) Words :=
    (readWords (Topic.optionNames none) false arguments).mapError (none, ·)
  let w ← general arguments
  if w.has .help then .ok (.help none)
  else
    match w.others with
    | [] => .ok (.help none)
    | name :: rest =>
      match Command.named? name with
      | some c => (readCommand files c rest).mapError (some c, ·)
      | none => do
        if (← general (name :: rest)).has .help then .ok (.help none)
        else .error (none, .unknownCommand name)

end TypedRecord.CommandLine
