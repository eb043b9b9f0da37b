import TypedRecord.Json.Fault
import TypedRecord.Refusal
import TypedRecord.Text.CodePoint
import TypedRecord.Text.Utf8
import TypedRecord.Value.Text

/-!
# TypedRecord.Failure

The ways in which an operation can stop without an answer.

Failing validation is not among them: it is an ordinary answer, a `Verdict` with issues. A failure is
either a cause that this library names and words (`Failure.message?`), or a request that makes no
sense for the values it was made of, which has no wording of its own.
-/

namespace TypedRecord

/-- Why an operation stopped. -/
inductive Failure
  /-- A text is not a type descriptor. -/
  | malformedDescriptor (m : Descriptor.Malformed)
  /-- A record was asked for and its data is invalid. -/
  | rejected (schema : String) (issue : Option Issue)
  /-- A registry does not know a schema. -/
  | unknownSchema (name : String)
  /-- A record has no such field. -/
  | absentField (field : Key)
  /-- A schema must have a name. -/
  | emptySchemaName
  /-- A record type admits no extensions. -/
  | notExtendable (schema : String)
  /-- A schema file extends a record type that admits no extensions. -/
  | fileExtendsFixed (schema : String)
  /-- A schema file extends a schema that is nowhere defined. -/
  | fileExtendsUnknown (schema : String)
  /-- A schema file extends something that is no record type. -/
  | fileExtendsFactory (schema : String)
  | unsupportedFormat (format : String)
  | unsupportedSuffix (suffix : String)
  | fileNotFound (path : String)
  | settingsNotFound (path : String)
  | malformedYaml
  | malformedSettingsYaml (path : String)
  | malformedJson (fault : Json.Fault)
  | settingsNotMapping (path : String)
  | sectionNotMapping (path : String)
  | refusedSettings (refusals : List Refusal)
  | refusedSchemaFile (path : String) (refusals : List Refusal)
  /-- Neither the command line nor the settings name a schema file. -/
  | noSchemaFiles
  /-- The command line names a schema that the schema files do not declare. -/
  | schemaNotDeclared (name : String) (known : List String)
  /-- No issue can be built for what is wrong, because a field in it is no text. -/
  | unreportable (refusals : List Refusal)
  /-- A field that is no text cannot be described. -/
  | indescribable
  /-- A whole number has more digits than are written. -/
  | unwritable
  /-- Settings given as a mapping are refused. -/
  | refusedOptions
  /-- A value does not have the operation that is asked of it. -/
  | unsupportedOperation
  /-- A value is of the wrong kind for an operation. -/
  | wrongKind
  /-- A value has the right kind and the wrong content. -/
  | wrongContent
  /-- A date in a document does not exist. -/
  | noSuchDate (fault : CalendarFault)
  /-- A text in a document spells no whole number in a base. -/
  | noWholeNumber (text : String) (base : Nat)
  /-- A text in a document spells no number. -/
  | noNumber (text : String)
  /-- A whole number in a document has more digits than are read. -/
  | tooManyDigits (digits : Nat)
  /-- A whole number is too large for a floating-point number. -/
  | numberTooLarge
  /-- An escape in a document is beyond all characters. -/
  | noSuchCharacter (number : Nat)
  /-- A word stands for nothing where words with a meaning are expected. -/
  | unknownWord (word : String)
  /-- A report lacks something that is shown of it. -/
  | incompleteReport (name : String)
  /-- An index is outside a sequence. -/
  | indexOutside
  /-- A file is not text in UTF-8. -/
  | undecodable (fault : Text.Utf8Fault)
  /-- A text cannot be written as bytes. -/
  | unencodable (fault : Text.EncodingFault)
  /-- A directory was opened as a file. -/
  | isDirectory (path : String)
  /-- A path has a name, or is on the whole, longer than paths can be. -/
  | nameTooLong (path : String)
  /-- No such variable. -/
  | noVariable
  /-- An object that holds itself has no end. -/
  | circular
  /-- A document is nested too deeply. -/
  | tooDeep
  /-- A sink cannot take an event. -/
  | sinkDown
  deriving DecidableEq, Inhabited

/-- The wording of a failure that this library names. -/
def Failure.message? : Failure → Option String
  | malformedDescriptor m => m.message
  | rejected schema issue =>
    "Cannot construct '" ++ schema ++ "': " ++ (issue.map Issue.message).getD "validation failed"
  | unknownSchema name => "Unknown schema: " ++ name
  | absentField field => field.plainText
  | emptySchemaName => "Schema name must not be empty"
  | notExtendable schema | fileExtendsFixed schema => "Schema '" ++ schema ++ "' is not extendable"
  | fileExtendsUnknown schema => "Cannot extend unknown schema '" ++ schema ++ "'"
  | fileExtendsFactory schema => "Schema '" ++ schema ++ "' does not support extensions"
  | unsupportedFormat format => "Unsupported format: " ++ format ++ ". Use 'yaml' or 'json'"
  | unsupportedSuffix suffix =>
    "Unsupported file extension: " ++ suffix ++ ". Use .yaml, .yml, or .json"
  | fileNotFound path => "File not found: " ++ path
  | settingsNotFound path => "Recordguard config file not found at " ++ path
  | malformedYaml => "Failed to parse YAML"
  | malformedSettingsYaml path => "Failed to parse YAML config file " ++ path
  | malformedJson fault => "Failed to parse JSON: " ++ fault.message
  | settingsNotMapping path => "Config file " ++ path ++ " must contain a mapping"
  | sectionNotMapping path => "'recordguard' section in " ++ path ++ " must be a mapping"
  | refusedSettings refusals =>
    "Invalid recordguard config: " ++ Refusal.countText refusals .settings
  | refusedSchemaFile path refusals =>
    "Invalid schema file " ++ path ++ ": " ++ Refusal.countText refusals .schemaFile
  | noSchemaFiles => "No schema files given. Use --schemas or set schema_files in recordguard.yml"
  | schemaNotDeclared name known =>
    "Unknown schema '" ++ name ++ "'. Known schemas: " ++ commaSeparated known
  | sinkDown => "sink down"
  | unreportable _ | indescribable | unwritable | refusedOptions | unsupportedOperation | wrongKind | wrongContent | noSuchDate _
  | noWholeNumber _ _ | noNumber _ | tooManyDigits _ | numberTooLarge | noSuchCharacter _
  | unknownWord _ | incompleteReport _ | indexOutside | undecodable _ | unencodable _
  | isDirectory _ | nameTooLong _ | noVariable | circular | tooDeep => none

end TypedRecord
