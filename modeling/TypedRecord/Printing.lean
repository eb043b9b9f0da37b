import TypedRecord.Json.Printer
import TypedRecord.Failure
import TypedRecord.Text.Terminal

/-!
# TypedRecord.Printing

How results are printed.

For machines a result is one JSON document under a status. For readers it is its text, and a list is
one line for each item. Control sequences for terminals are not printed.
-/

namespace TypedRecord

/-- A mapping with text keys. -/
def Value.ofFields (fields : List (String × Value)) : Value :=
  .dict none (fields.map fun f => (.str f.1, f.2))

/-- A line of text. -/
def textLine (s : String) : String := Text.unstyled s ++ "\n"

/-- A value on a line of its own. A byte string is not text and cannot be printed; an empty one
leaves the line empty. -/
def printLine (v : Value) : Except Failure String :=
  match v with
  | .atom _ .nil => .ok "\n"
  | .atom _ (.bytes data) | .buffer _ data => if data = [] then .ok "\n" else .error .wrongKind
  | v => .ok (textLine v.plainText)

/-- A JSON document on lines of its own. -/
def printJson (v : Value) : Except Failure String :=
  match Json.print? v with
  | some text => .ok (text ++ "\n")
  | none => .error .wrongKind

/-- A result as it is printed. -/
def printResult (result : Value) (json : Bool) : Except Failure String :=
  if json then printJson (.ofFields [("status", .str "ok"), ("result", result)])
  else
    match result with
    | .list _ items => do
      let lines ← items.mapM printLine
      .ok (String.join lines)
    | v => printLine v

end TypedRecord
