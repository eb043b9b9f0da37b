import TypedRecord.Numeric.Reading
import TypedRecord.Text.Utf8
import TypedRecord.Yaml.Cursor

/-!
# TypedRecord.Yaml.Property

What is written in front of a node or of a document: the names of anchors, tags, and directives.

A tag is written with a handle, which a directive may give a meaning, or in full between angles.
-/

namespace TypedRecord.Yaml

/-- The characters of names. -/
def isNameChar (c : Char) : Bool :=
  ('0' ≤ c && c ≤ '9') || ('A' ≤ c && c ≤ 'Z') || ('a' ≤ c && c ≤ 'z') || c == '-' || c == '_'

/-- A name, of at least one character. -/
def name : Scan String := fun c =>
  let cs := c.run isNameChar
  if cs.isEmpty then none else some (String.ofList cs, c.advance cs.length)

/-- The signs that may follow an anchor without a blank. -/
def afterAnchor : List Char := ['?', ':', ',', ']', '}', '%', '@', '\x60']

/-- The name of an anchor or a reference, of which the cursor is at its sign. -/
def anchorName : Scan String := fun c => do
  let (text, c) ← name c.step
  if endsWord c.peek || c.peek.any afterAnchor.contains then some (text, c) else none

/-! ### Tags -/

/-- The characters of the address that a tag is; a percent sign begins an escape. -/
def isAddressChar (c : Char) : Bool :=
  isNameChar c || [';', '/', '?', ':', '@', '&', '=', '+', '$', ',', '.', '!', '~', '*', '\'', '(',
    ')', '[', ']'].contains c

/-- Bytes that are written one after the other, each as a percent sign and two digits. -/
def escapedBytes : List Char → Option (List UInt8 × List Char)
  | '%' :: a :: b :: rest => do
    let n ← readNat? 16 [a, b]
    let (bytes, rest) ← escapedBytes rest
    some (UInt8.ofNat n :: bytes, rest)
  | '%' :: _ => none
  | rest => some ([], rest)

/-- The address at the front. -/
def addressFrom : Nat → Cursor → Option (List Char × Cursor)
  | 0, _ => none
  | fuel + 1, c =>
    let cs := c.run isAddressChar
    let c := c.advance cs.length
    if c.peek == some '%' then do
      let (bytes, rest) ← escapedBytes c.rest
      let text ← (Text.decodeUtf8 bytes).toOption
      let (more, c) ← addressFrom fuel (c.advance (c.rest.length - rest.length))
      some (cs ++ text.toList ++ more, c)
    else some (cs, c)

/-- An address, of at least one character. -/
def address : Scan String := fun c => do
  let (text, c) ← addressFrom (c.rest.length + 1) c
  if text.isEmpty then none else some (String.ofList text, c)

/-- A handle: an exclamation mark, or a name between two of them. -/
def handle : Scan String := fun c =>
  if c.peek != some '!' then none
  else if c.peek 1 == some ' ' then some ("!", c.step)
  else
    let cs := c.step.run isNameChar
    if c.peek (cs.length + 1) == some '!' then
      some (String.ofList ('!' :: cs ++ ['!']), c.advance (cs.length + 2))
    else none

/-- Whether a word ends before a character, where tabs belong to words. -/
def endsTag : Option Char → Bool
  | none => true
  | some c => c == ' ' || isBreak c

/-- A tag as it is written: its handle, if it has one, and the rest. The cursor is at the
exclamation mark. -/
def tag : Scan (Option String × String) := fun c => do
  let (written, c) ←
    if c.peek 1 == some '<' then do
      let (text, c) ← address (c.advance 2)
      if c.peek == some '>' then some ((none, text), c.step) else none
    else if endsWord (c.peek 1) then some ((none, "!"), c.step)
    else do
      let word := c.step.run fun x => !endsTag (some x)
      let (handle, c) ← if word.contains '!' then handle c else some ("!", c.step)
      let (text, c) ← address c
      some ((some handle, text), c)
  if endsTag c.peek then some (written, c) else none

/-! ### Directives -/

/-- A directive: the version of the language, the meaning of a handle, or anything else, which is
ignored. -/
inductive Directive
  | version (major minor : Nat)
  | meaning (handle address : String)
  | reserved
  deriving DecidableEq, Inhabited, Repr

/-- A directive, or the number of digits of a number in it that has too many to be read. -/
abbrev Measured (α : Type) : Type := Except Nat α

/-- A number of a version. -/
def versionNumber : Scan (Measured Nat) := fun c => do
  let ds := c.run Char.isDigit
  let n ← readNat? 10 ds
  some (if digitLimit < ds.length then .error ds.length else .ok n, c.advance ds.length)

/-- The version that a directive gives. Nothing behind a number with too many digits is looked at. -/
def version : Scan (Measured Directive) := fun c => do
  match ← versionNumber c with
  | (.error digits, c) => some (.error digits, c)
  | (.ok major, c) =>
    if c.peek != some '.' then none
    match ← versionNumber c.step with
    | (.error digits, c) => some (.error digits, c)
    | (.ok minor, c) => if endsTag c.peek then some (.ok (.version major minor), c) else none

/-- A directive, of which the cursor is at the percent sign. -/
def directive : Scan (Measured Directive) := fun c => do
  let (word, c) ← name c.step
  if !endsTag c.peek then none
  let (d, c) ←
    if word = "YAML" then version c.skipSpaces
    else if word = "TAG" then do
      let (name, c) ← handle c.skipSpaces
      if c.peek != some ' ' then none
      let (text, c) ← address c.skipSpaces
      if !endsTag c.peek then none
      some (.ok (Directive.meaning name text), c)
    else some (.ok Directive.reserved, c.skipWhile fun x => !isBreak x)
  match d with
  | .error digits => some (.error digits, c)
  | .ok d => some (.ok d, ← c.restOfLine?)

end TypedRecord.Yaml
