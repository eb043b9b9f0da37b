import TypedRecord.Value.Text

/-!
# TypedRecord.Json.Printer

Writing values as JSON, indented by two spaces, in ASCII.

What JSON does not have is written as the text it stands for in messages; tuples are arrays. Names of
members must be texts, numbers, truth values or null, all of which are written as texts.
-/

namespace TypedRecord.Json

/-- A code point by its UTF-16 units in hexadecimal. -/
def escapeUnits (n : Nat) : List Char :=
  let unit (n : Nat) := '\\' :: 'u' :: Text.hex 4 n
  if n < 0x10000 then unit n
  else
    let low := n - 0x10000
    unit (0xD800 + low / 0x400) ++ unit (0xDC00 + low % 0x400)

/-- One code point inside a JSON string. -/
def escapePoint (n : Nat) : List Char :=
  match Char.ofNat n with
  | '"' => ['\\', '"']
  | '\\' => ['\\', '\\']
  | '\n' => ['\\', 'n']
  | '\r' => ['\\', 'r']
  | '\t' => ['\\', 't']
  | '\x08' => ['\\', 'b']
  | '\x0c' => ['\\', 'f']
  | c => if 0x20 ≤ n && n < 0x7F then [c] else escapeUnits n

/-- A text as a JSON string. -/
def quote (s : String) : String := String.ofList ('"' :: (Text.pointsOf s).flatMap escapePoint ++ ['"'])

/-- Numbers are written as everywhere else, except for what is not a number and the infinities. -/
def floatLayout : DecimalLayout := { DecimalLayout.standard with
  notANumber := "NaN", infinity := "Infinity" }

/-- An atom as JSON. -/
def atomText : Atom → String
  | .nil => "null"
  | .bool b => if b then "true" else "false"
  | .int i => toString i
  | .float x => x.textWith floatLayout
  | .str s => quote s
  | a => quote (Key.atom none a).plainText

/-- The name of a member as JSON; none for keys that cannot be one. -/
def nameText? : Key → Option String
  | .atom _ (.str s) => some (quote s)
  | .atom _ (.nil) => some (quote "null")
  | .atom _ (.bool b) => some (quote (if b then "true" else "false"))
  | .atom _ (.int i) => some (quote (toString i))
  | .atom _ (.float x) => some (quote (x.textWith floatLayout))
  | _ => none

/-- A line break followed by the indentation of a depth. -/
def newline (depth : Nat) : String := "\n" ++ String.ofList (List.replicate (2 * depth) ' ')

/-- Parts between brackets, one on each line. -/
def block (opening closing : String) (depth : Nat) (parts : List String) : String :=
  if parts = [] then opening ++ closing
  else opening ++ newline (depth + 1) ++ ("," ++ newline (depth + 1)).intercalate parts ++
    newline depth ++ closing

mutual

/-- A value as JSON at a depth of nesting, or none if a member has no name. -/
def render? (depth : Nat) : Value → Option String
  | .atom _ a => some (atomText a)
  | .list _ items | .tuple _ items => do
    some (block "[" "]" depth (← renderItems? (depth + 1) items))
  | .dict _ entries => do some (block "\x7b" "\x7d" depth (← renderMembers? (depth + 1) entries))
  | v => some (quote v.plainText)

def renderItems? (depth : Nat) : List Value → Option (List String)
  | [] => some []
  | v :: vs => do
    let first ← render? depth v
    let rest ← renderItems? depth vs
    some (first :: rest)

def renderMembers? (depth : Nat) : List (Key × Value) → Option (List String)
  | [] => some []
  | (k, v) :: es => do
    let name ← nameText? k
    let value ← render? depth v
    let rest ← renderMembers? depth es
    some ((name ++ ": " ++ value) :: rest)

end

/-- A value as a JSON document. -/
def print? (v : Value) : Option String := render? 0 v

end TypedRecord.Json
