import TypedRecord.Numeric.Reading
import TypedRecord.Text.Quoted
import TypedRecord.Text.Utf8
import TypedRecord.Value

/-!
# TypedRecord.Value.Text

Values as text.

`Value.shown` is the unambiguous form in which values are previewed: texts are quoted, containers are
written with their brackets, and a record as its class name around its data and mode. `Value.plainText`
is the form for reading: a text stands for itself and a date is written as usual, everything else is
shown.

An object that is met inside itself is not shown again; three dots stand in its brackets.
-/

namespace TypedRecord

/-- Texts joined by commas. -/
def commaSeparated (parts : List String) : String := ", ".intercalate parts

/-- A parsed descriptor as it is shown. -/
def Descriptor.shown : Descriptor → String
  | .named name nullable =>
    let d : Descriptor := .named name nullable
    let category := match d.category with
      | .primitive => "PRIMITIVE: 'primitive'"
      | .array => "ARRAY: 'array'"
      | .untypedArray => "UNTYPED_ARRAY: 'untyped_array'"
      | .map => "MAP: 'map'"
      | .reference => "REFERENCE: 'reference'"
    "TypeDescriptor(raw=" ++ Text.quote d.text ++ ", category=<DescriptorCategory." ++ category ++
      ">, name=" ++ Text.quote d.name ++ ", nullable=" ++ (if nullable then "True" else "False") ++
      ", element=None)"
  | .array element nullable =>
    let d : Descriptor := .array element nullable
    "TypeDescriptor(raw=" ++ Text.quote d.text ++
      ", category=<DescriptorCategory.ARRAY: 'array'>, name='Array', nullable=" ++
      (if nullable then "True" else "False") ++ ", element=" ++ element.shown ++ ")"

/-- An atom as it is shown. -/
def Atom.shown : Atom → String
  | .nil => "None"
  | .bool b => if b then "True" else "False"
  | .int i => toString i
  | .float x => x.text
  | .str s => Text.quote s
  | .bytes data => Text.quoteBytes data
  | .date d => d.preview
  | .moment m => m.preview
  | .object _ label => "<object " ++ label ++ ">"
  | .bound _ schema => "<bound " ++ schema ++ ">"
  | .descriptor d => d.shown
  | .type name => "<class 'recordguard.record.core." ++ name.className ++ "'>"
  | .factory _ word => "<function " ++ word ++ ">"

/-- The items of a tuple in its brackets; a tuple of one item keeps its comma. -/
def tupleText : List String → String
  | [item] => "(" ++ item ++ ",)"
  | items => "(" ++ commaSeparated items ++ ")"

mutual

/-- A key as it is shown. -/
def Key.shown : Key → String
  | .atom _ a => a.shown
  | .tuple _ items => tupleText (shownKeys items)

def shownKeys : List Key → List String
  | [] => []
  | k :: ks => k.shown :: shownKeys ks

end

/-- A key as it stands in a message: a text stands for itself. -/
def Key.plainText : Key → String
  | .atom _ (.str s) => s
  | .atom _ (.date d) => d.text
  | .atom _ (.moment m) => m.textWith " "
  | .atom _ (.descriptor d) => d.text
  | k => k.shown

/-- Whether an object is one of those around it. -/
def isInside (outer : List Nat) (mark : Mark) : Bool := mark.any outer.contains

/-- What stands in the brackets of an object that is shown inside itself. -/
def repeated : List String := ["..."]

mutual

/-- A value as it is shown inside the objects `outer`. -/
def Value.shownIn (outer : List Nat) : Value → String
  | .atom _ a => a.shown
  | .reference _ => commaSeparated repeated
  | .buffer _ data => "bytearray(" ++ Text.quoteBuffer data ++ ")"
  | .list mark items =>
    let parts := if isInside outer mark then repeated else shownItems (mark.toList ++ outer) items
    "[" ++ commaSeparated parts ++ "]"
  | @Value.tuple .fixed mark items =>
    if isInside outer mark then "(" ++ commaSeparated repeated ++ ")"
    else tupleText (shownItems (mark.toList ++ outer) items)
  | @Value.tuple .deque mark items =>
    if isInside outer mark then "[" ++ commaSeparated repeated ++ "]"
    else "deque([" ++ commaSeparated (shownItems (mark.toList ++ outer) items) ++ "])"
  | .set [] => "set()"
  | .set items => "\x7b" ++ commaSeparated (shownKeys items) ++ "\x7d"
  | .dict mark entries =>
    let parts := if isInside outer mark then repeated else shownEntries (mark.toList ++ outer) entries
    "\x7b" ++ commaSeparated parts ++ "\x7d"
  | .view mark entries =>
    let parts := if isInside outer mark then repeated else shownEntries (mark.toList ++ outer) entries
    "mappingproxy(\x7b" ++ commaSeparated parts ++ "\x7d)"
  | .record mark header data =>
    let parts := if isInside outer mark then repeated else shownEntries (mark.toList ++ outer) data
    header.type.className ++ "(\x7b" ++ commaSeparated parts ++ "\x7d, mode=" ++
      header.mode.word ++ ")"

def shownItems (outer : List Nat) : List Value → List String
  | [] => []
  | v :: vs => v.shownIn outer :: shownItems outer vs

def shownEntries (outer : List Nat) : List (Key × Value) → List String
  | [] => []
  | (k, v) :: es => (k.shown ++ ": " ++ v.shownIn outer) :: shownEntries outer es

end

/-- A value as it is shown. -/
def Value.shown (v : Value) : String := v.shownIn []

/-- A value as it stands in a message. A view is written like the mapping that it shows. -/
def Value.plainText : Value → String
  | .atom _ a => (Key.atom none a).plainText
  | .view mark entries => (Value.dict mark entries).shown
  | v => v.shown

/-! ### What can be written -/

/-- Whether the numbers in an atom are short enough to be written. -/
def Atom.isWritable : Atom → Bool
  | .int i => isWritableInt i
  | _ => true

mutual

/-- Whether the numbers in a key are short enough to be written. -/
def Key.isWritable : Key → Bool
  | .atom _ a => a.isWritable
  | .tuple _ items => areWritableKeys items

def areWritableKeys : List Key → Bool
  | [] => true
  | k :: ks => k.isWritable && areWritableKeys ks

end

mutual

/-- Whether the numbers in a value are short enough to be written. -/
def Value.isWritable : Value → Bool
  | .atom _ a => a.isWritable
  | .reference _ | .buffer _ _ => true
  | .list _ items | .tuple _ items => areWritableItems items
  | .set items => areWritableKeys items
  | .dict _ entries | .view _ entries | .record _ _ entries => areWritableEntries entries

def areWritableItems : List Value → Bool
  | [] => true
  | v :: vs => v.isWritable && areWritableItems vs

def areWritableEntries : List (Key × Value) → Bool
  | [] => true
  | (k, v) :: es => k.isWritable && v.isWritable && areWritableEntries es

end

/-- The text a key is reported by. Byte strings are reported by the text they encode, other keys by
none. -/
def Key.reportable? : Key → Option String
  | .atom _ (.str s) => some s
  | .atom _ (.bytes data) => (Text.decodeUtf8 data).toOption
  | _ => none

/-- The text a value is reported by: a text, or the text that bytes encode. -/
def Value.reportable? : Value → Option String
  | .atom _ a => (Key.atom none a).reportable?
  | .buffer _ data => (Text.decodeUtf8 data).toOption
  | _ => none

/-- The length from which on a preview is cut. -/
def previewLength : Nat := 40

/-- A text cut to the preview length; the cut is marked by three dots, which count. -/
def previewText (text : String) : String :=
  if previewLength < Text.length text then Text.take (previewLength - 3) text ++ "..."
  else text

/-- The preview of a value. -/
def Value.preview (v : Value) : String := previewText v.shown

end TypedRecord
