import TypedRecord.Text.Fold

/-!
# TypedRecord.Path

Paths of files, as they are written.

A path is a list of names, behind a root if it is absolute. Empty names and single dots mean nothing
and are left out; a double dot stays, because what it means depends on the files.
-/

namespace TypedRecord

/-- A path. The root of a relative path is empty. -/
structure Path where
  root : String
  names : List String
  deriving DecidableEq, Inhabited, Repr

namespace Path

/-- Splits a text at slashes. -/
def pieces : List Char → List (List Char)
  | [] => [[]]
  | c :: rest =>
    if c = '/' then [] :: pieces rest
    else
      match pieces rest with
      | piece :: more => (c :: piece) :: more
      | [] => [[c]]

/-- Reads a path. One slash in front makes it absolute, and so do two, which stay two; more count as
one. -/
def ofText (text : String) : Path :=
  let cs := text.toList
  let slashes := (cs.takeWhile (· == '/')).length
  let root := if slashes = 0 then "" else if slashes = 2 then "//" else "/"
  let names := (pieces cs).filter fun piece => piece != [] && piece != ['.']
  ⟨root, names.map String.ofList⟩

/-- Whether a path is absolute. -/
def isAbsolute (p : Path) : Bool := p.root != ""

/-- A path as text. The path without names is a dot. -/
def text (p : Path) : String :=
  let names := "/".intercalate p.names
  if p.root = "" ∧ p.names = [] then "." else p.root ++ names

/-- A path seen from another one. -/
def join (base p : Path) : Path :=
  if p.isAbsolute then p else ⟨base.root, base.names ++ p.names⟩

/-- The path of the directory that holds what a path names. -/
def parent (p : Path) : Path := ⟨p.root, p.names.dropLast⟩

/-- The last name of a path; empty if there is none. -/
def name (p : Path) : String := p.names.getLast?.getD ""

/-- The suffix of a path: its last name from the last dot on, unless the name begins or ends with
that dot. -/
def suffix (p : Path) : String :=
  let cs := p.name.toList
  let tail := (cs.reverse.takeWhile (· != '.')).reverse
  if tail = [] ∨ cs.length ≤ tail.length + 1 then "" else String.ofList ('.' :: tail)

/-- A path together with a text it is read from, which need not be the shortest one. -/
structure Written where
  path : Path
  text : String
  deriving DecidableEq, Inhabited, Repr

/-- A path as it is written. -/
def Written.ofText (text : String) : Written := ⟨.ofText text, text⟩

/-- A path written as short as it can be. -/
def written (p : Path) : Written := ⟨p, p.text⟩

end Path

end TypedRecord
