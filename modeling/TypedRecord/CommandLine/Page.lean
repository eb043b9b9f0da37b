/-!
# TypedRecord.CommandLine.Page

Help pages.

A page shows how something is invoked, then paragraphs of prose, then tables with a heading each. The
prose is filled to the width of the page. In a table the second column is aligned.
-/

namespace TypedRecord.CommandLine

/-- The number of columns that a page may take. -/
def pageWidth : Nat := 78

/-- A margin. -/
def margin (n : Nat) : String := String.ofList (List.replicate n ' ')

/-- Splits a text into its words, each with the number of blanks before it. -/
def spacedWords : List Char → List (Nat × List Char)
  | [] => []
  | c :: rest =>
    match spacedWords rest with
    | [] => if c = ' ' then [(1, [])] else [(0, [c])]
    | (blanks, word) :: more =>
      if c = ' ' then (blanks + 1, word) :: more
      else if blanks = 0 then (0, c :: word) :: more
      else (0, [c]) :: (blanks, word) :: more

/-- Fills lines with words. A word that does not fit begins a new line, and the blanks before it are
dropped. -/
def fillLines (width : Nat) : List (Nat × List Char) → List (List Char) → List (List Char)
  | [], lines => lines.reverse
  | (_, word) :: rest, [] => fillLines width rest [word]
  | (blanks, word) :: rest, line :: lines =>
    if line.length + blanks + word.length ≤ width then
      fillLines width rest ((line ++ List.replicate blanks ' ' ++ word) :: lines)
    else fillLines width rest (word :: line :: lines)

/-- A paragraph, filled and set in by two columns. -/
def paragraph (text : String) : List String :=
  (fillLines (pageWidth - 2) (spacedWords text.toList) []).map fun line =>
    margin 2 ++ String.ofList line

/-- The rows of a table, set in by two columns. -/
def table (rows : List (String × String)) : List String :=
  let widest := (rows.map fun row => row.1.length).foldl max 0
  rows.map fun row => margin 2 ++ row.1 ++ margin (widest - row.1.length + 2) ++ row.2

/-- A help page. -/
structure Page where
  usage : String
  paragraphs : List String
  tables : List (String × List (String × String))
  deriving DecidableEq, Inhabited, Repr

/-- How something is invoked. -/
def Page.usageLine (p : Page) : String := "Usage: " ++ p.usage

/-- The page as text. -/
def Page.text (p : Page) : String :=
  let parts := [p.usageLine] :: p.paragraphs.map paragraph ++
    p.tables.map fun t => (t.1 ++ ":") :: table t.2
  "\n\n".intercalate (parts.map "\n".intercalate) ++ "\n"

end TypedRecord.CommandLine
