import TypedRecord.CommandLine.Command
import TypedRecord.Failure
import TypedRecord.Numeric.Reading
import TypedRecord.Printing

/-!
# TypedRecord.CommandLine.Complaint

How the command line says that something went wrong.

Arguments that cannot be understood are a `UsageFault`. A command that stops is told about by the text
of its `Failure`, under a category; at the command line every failure has a text, also one that the
library leaves without wording elsewhere.
-/

namespace TypedRecord

/-! ### Failures -/

/-- The category of a failure. -/
def Failure.category : Failure → String
  | malformedDescriptor _ => "DescriptorError"
  | rejected _ _ => "ConstructionRejected"
  | unknownSchema _ | absentField _ | unknownWord _ | incompleteReport _ => "KeyError"
  | notExtendable _ | wrongKind => "TypeError"
  | fileNotFound _ | settingsNotFound _ => "FileNotFoundError"
  | unreportable _ | indescribable | refusedOptions => "ValidationError"
  | unsupportedOperation => "AttributeError"
  | indexOutside => "IndexError"
  | undecodable _ => "UnicodeDecodeError"
  | unencodable _ => "UnicodeEncodeError"
  | isDirectory _ => "IsADirectoryError"
  | noVariable => "NoVar"
  | circular | tooDeep => "RecursionError"
  | nameTooLong _ => "OSError"
  | numberTooLarge => "OverflowError"
  | sinkDown => "RuntimeError"
  | noSuchCharacter n => if n < 0x80000000 then "ValueError" else "OverflowError"
  | emptySchemaName | fileExtendsFixed _ | fileExtendsUnknown _ | fileExtendsFactory _
  | unsupportedFormat _ | unsupportedSuffix _ | malformedYaml | malformedSettingsYaml _
  | malformedJson _ | settingsNotMapping _ | sectionNotMapping _ | refusedSettings _
  | refusedSchemaFile _ _ | noSchemaFiles | schemaNotDeclared _ _ | wrongContent | noSuchDate _
  | noWholeNumber _ _ | noNumber _ | tooManyDigits _ | unwritable => "ValueError"

/-- What keeps bytes from being text, with the place. -/
def Text.Utf8Fault.text (fault : Text.Utf8Fault) : String :=
  let place :=
    if fault.length = 1 then
      "byte 0x" ++ String.ofList (Text.hex 2 fault.byte.toNat) ++ s!" in position {fault.offset}"
    else s!"bytes in position {fault.offset}-{fault.offset + fault.length - 1}"
  "'utf-8' codec can't decode " ++ place ++ ": " ++ fault.reason.message

/-- What keeps a text from being written as bytes, with the place. -/
def Text.EncodingFault.text (fault : Text.EncodingFault) : String :=
  let place :=
    if fault.length = 1 then
      "character " ++ Text.quote (Text.ofPoints [fault.number]) ++
        s!" in position {fault.offset}"
    else s!"characters in position {fault.offset}-{fault.offset + fault.length - 1}"
  "'utf-8' codec can't encode " ++ place ++ ": surrogates not allowed"

/-- The text of a failure. What could not be found under a key is told by the key alone, as a quoted
literal. Refusals point to a manual. -/
def Failure.text (manual : Refusal.Manual) (failure : Failure) : String :=
  match failure with
  | .absentField key => key.shown
  | .unknownSchema name => Text.quote ("Unknown schema: " ++ name)
  | .unknownWord word | .incompleteReport word => Text.quote word
  | .undecodable fault => fault.text
  | .unencodable fault => fault.text
  | .isDirectory path => "[Errno 21] Is a directory: " ++ Text.quote path
  | .noSuchDate fault => fault.message
  | .noWholeNumber text base =>
    s!"invalid literal for int() with base {base}: " ++
      String.ofList ((Text.quote text).toList.take 200)
  | .noNumber text => "could not convert string to float: " ++ Text.quote text
  | .tooManyDigits digits =>
    s!"Exceeds the limit ({digitLimit} digits) for integer string conversion: value has {digits} " ++
      "digits; use sys.set_int_max_str_digits() to increase the limit"
  | .unwritable =>
    s!"Exceeds the limit ({digitLimit} digits) for integer string conversion; use " ++
      "sys.set_int_max_str_digits() to increase the limit"
  | .refusedSettings refusals =>
    "Invalid recordguard config: " ++ Refusal.report manual refusals .settings
  | .refusedSchemaFile path refusals =>
    "Invalid schema file " ++ path ++ ": " ++ Refusal.report manual refusals .schemaFile
  | .unreportable refusals => Refusal.report manual refusals .issue
  | .numberTooLarge => "int too large to convert to float"
  | .noSuchCharacter n =>
    if n < 0x80000000 then "chr() arg not in range(0x110000)"
    else "Python int too large to convert to C int"
  | .nameTooLong path => "[Errno 36] File name too long: " ++ Text.quote path
  | .circular | .tooDeep => "maximum recursion depth exceeded"
  | .indexOutside => "string index out of range"
  | .wrongContent => "type name must not contain null characters"
  | .unsupportedOperation => "'NoneType' object has no attribute 'groupdict'"
  | failure => failure.message?.getD failure.category

namespace CommandLine

/-- A failure as an error document. Where details are asked for, they are the category and a mark
where a trace could stand. -/
def failureDocument (manual : Refusal.Manual) (failure : Failure) (details : Bool) : Value :=
  .ofFields (
  [("status", .str "error"), ("error", .str (failure.text manual))] ++
    if details then
      [("traceback", .str "<traceback>"), ("type", .str failure.category)]
    else [])

/-- A failure as lines for readers. -/
def failureLines (manual : Refusal.Manual) (failure : Failure) (details : Bool) : String :=
  textLine ("Error: " ++ failure.text manual) ++ if details then "\nTraceback:\n<traceback>\n" else ""

/-! ### Usage -/

/-- Why arguments cannot be understood. -/
inductive UsageFault
  /-- No such option; perhaps one of some others is meant. -/
  | unknownOption (spelling : String) (near : List String)
  | missingValue (option : OptionName)
  | unwantedValue (option : OptionName)
  | unknownCommand (name : String)
  | missingArgument (name : String)
  /-- A file was expected in some place, and a directory was given. -/
  | directoryGiven (place path : String)
  | extraArguments (arguments : List String)
  /-- A path that no file can have. -/
  | impossiblePath (category : String)
  deriving DecidableEq, Inhabited, Repr

namespace UsageFault

/-- The wording of a fault. -/
def message : UsageFault → String
  | unknownOption spelling near =>
    "No such option: " ++ spelling ++
      match near with
      | [] => ""
      | [one] => " Did you mean " ++ one ++ "?"
      | several =>
        " (Possible options: " ++ commaSeparated (several.mergeSort Text.upTo) ++ ")"
  | missingValue option => "Option '" ++ option.spelling ++ "' requires an argument."
  | unwantedValue option => "Option '" ++ option.spelling ++ "' does not take a value."
  | unknownCommand name => "No such command " ++ Text.quote name ++ "."
  | missingArgument name => "Missing argument '" ++ name ++ "'."
  | directoryGiven place path =>
    "Invalid value for '" ++ place ++ "': File " ++ Text.quote path ++ " is a directory."
  | extraArguments arguments =>
    "Got unexpected extra argument" ++ (if arguments.length = 1 then "" else "s") ++ " (" ++
      " ".intercalate arguments ++ ")"
  | impossiblePath category => category

/-- Whether a fault is told with a reminder of the usage. Faults in the value of an option are not. -/
def showsUsage : UsageFault → Bool
  | missingValue _ | unwantedValue _ => false
  | _ => true

/-- The category of a fault that ends the program without a word. -/
def silent? : UsageFault → Option String
  | impossiblePath category => some category
  | _ => none

/-- What is printed about a fault in the arguments of a topic. -/
def text (topic : Topic) (fault : UsageFault) : String :=
  let reminder :=
    if fault.showsUsage then
      topic.page.usageLine ++ "\nTry '" ++ topic.invocation ++ " " ++ OptionName.help.spelling ++
        "' for help.\n\n"
    else ""
  reminder ++ textLine ("Error: " ++ fault.message)

end UsageFault

end CommandLine

end TypedRecord
