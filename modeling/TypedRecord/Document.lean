import TypedRecord.FileTree
import TypedRecord.Json.Reader
import TypedRecord.Yaml.Reader

/-!
# TypedRecord.Document

Documents in files.

A document is YAML or JSON. The format follows from the file's suffix, in any case. A document that
holds nothing, or nothing but a value that counts as false, reads as the empty mapping.
-/

namespace TypedRecord

/-- The formats of documents. -/
inductive Format
  | yaml
  | json
  deriving DecidableEq, Inhabited, Repr

namespace Format

/-- The format with a name. -/
def named (name : String) : Except Failure Format :=
  match name with
  | "yaml" => .ok .yaml
  | "json" => .ok .json
  | name => .error (.unsupportedFormat name)

/-- The format of files with a suffix. -/
def ofSuffix (suffix : String) : Except Failure Format :=
  match Text.lower suffix with
  | ".yaml" | ".yml" => .ok .yaml
  | ".json" => .ok .json
  | _ => .error (.unsupportedSuffix suffix)

end Format

namespace Document

/-- What keeps a text from being read as JSON. -/
def obstacle : Json.Obstacle Json.Fault → Failure
  | .malformed fault => .malformedJson fault
  | .tooManyDigits digits => .tooManyDigits digits
  | .tooDeep => .tooDeep

/-- The document that a text spells, for somebody who goes so much `deeper` into it than usual. -/
def parse (format : Format) (content : String) (deeper : Nat := 0) : Except Failure Value :=
  match format with
  | .yaml => Yaml.read content deeper
  | .json => (Json.read content).mapError obstacle

/-- What a document is taken for: one that counts as false is the empty mapping. -/
def orEmpty (document : Value) : Value := if document.truthy then document else .dict none []

/-- Reads a document from text, for somebody who goes so much `deeper` into it than usual. -/
def read (format : Format) (content : String) (deeper : Nat := 0) : Except Failure Value :=
  (parse format content deeper).map orEmpty

/-- Makes sure that a path names something; `absent` is the failure if it does not. -/
def present (files : FileTree) (path : Path) (absent : Failure) : Except Failure Unit :=
  match files.look path with
  | .missing => .error absent
  | .tooLong => .error (.nameTooLong path.text)
  | _ => .ok ()

/-- The bytes in a file. -/
def bytesOf (files : FileTree) (path : Path) : Except Failure (List UInt8) :=
  match files.look path with
  | .file content => .ok content
  | .directory => .error (.isDirectory path.text)
  | .missing => .error (.fileNotFound path.text)
  | .tooLong => .error (.nameTooLong path.text)

/-- The text in a file; its line breaks are newlines, however they are written. -/
def textOf (files : FileTree) (path : Path) : Except Failure String := do
  let text ← (Text.decodeUtf8 (← bytesOf files path)).mapError .undecodable
  .ok (String.ofList (Text.withNewlines text.toList))

/-- The text in the file of a document, and the format it is in. -/
def contents (files : FileTree) (path : Path) : Except Failure (Format × String) := do
  present files path (.fileNotFound path.text)
  let format ← Format.ofSuffix path.suffix
  .ok (format, ← textOf files path)

/-- Reads the document in a file. -/
def load (files : FileTree) (path : Path) (deeper : Nat := 0) : Except Failure Value := do
  let (format, content) ← contents files path
  read format content deeper

/-- How deep a document may be for it to be copied. -/
def copiedDepth : Nat := 488

/-- A document that can be copied: one without an end, or a very deep one, cannot. -/
def copyable (v : Value) : Except Failure Value :=
  if v.meets Value.isCopiedDeeply then .error .circular
  else if copiedDepth < v.depth then .error .tooDeep
  else .ok v

/-- A document that can be written out: it has an end and is not very deep, and its numbers are short
enough. -/
def written (v : Value) : Except Failure Value :=
  if v.isCut then .error .circular
  else if copiedDepth < v.depth then .error .tooDeep
  else if v.isWritable then .ok v
  else .error .unwritable

end Document

end TypedRecord
