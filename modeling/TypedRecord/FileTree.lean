import TypedRecord.Path
import TypedRecord.Text.Utf8

/-!
# TypedRecord.FileTree

The files that a program sees.

A file tree is a snapshot of the files below the working directory, and perhaps of what some single
paths name. Reading from it has no effects, so everything that depends on files is a function of the
tree.
-/

namespace TypedRecord

/-- What a path names; a path can be too long to name anything. -/
inductive FileTree.Entry
  | file (content : List UInt8)
  | directory
  | missing
  | tooLong
  deriving DecidableEq, Inhabited, Repr

/-- The files and directories below the working directory, each by its names from there; a directory
has no content. Directories on the way to them need not be listed. `home` is the absolute path of
the working directory. What a path in `noted` names is as noted there, wherever it is. -/
structure FileTree where
  home : String
  entries : List (List String × Option (List UInt8)) := []
  noted : List (Path × FileTree.Entry) := []
  deriving Inhabited

namespace FileTree

/-- What is at a list of names. -/
def entryAt (t : FileTree) (names : List String) : Entry :=
  match t.entries.find? fun e => e.1 = names with
  | some (_, some content) => .file content
  | some (_, none) => .directory
  | none =>
    if names = [] ∨ t.entries.any fun e => names.isPrefixOf e.1 then .directory else .missing

/-- How many bytes a name or a path takes. In names a lone unit stands for a byte that is no text. -/
def byteSize (name : String) : Nat :=
  (Text.encodeUtf8 name).length + ((Text.pointsOf name).filter Text.isSurrogate).length

/-- How many bytes a name may have. -/
def nameLimit : Nat := 255

/-- How many bytes a path may have. -/
def pathLimit : Nat := 4095

/-- What a name stands for in a directory in which nothing is known to be. -/
def unknown (name : String) : Entry :=
  if nameLimit < byteSize name then .tooLong else .missing

/-- Goes on from a directory, given by its names. Nothing outside the working directory is known but
that the directories on the way to it are there. `above` counts how many of them were climbed. -/
def walk (t : FileTree) : List String → Nat → List String → Entry
  | here, above, [] => if above = 0 then t.entryAt here else .directory
  | here, above, name :: rest =>
    if name = ".." then
      match here with
      | [] => walk t [] (above + 1) rest
      | here => if t.entryAt here = .directory then walk t here.dropLast above rest else .missing
    else if above ≠ 0 then unknown name
    else if t.entryAt here = .directory then
      if nameLimit < byteSize name then .tooLong else walk t (here ++ [name]) 0 rest
    else .missing

/-- The path of something in the working directory, written out in full. -/
def homePath (t : FileTree) (name : String) : Path := ⟨t.home ++ "/", [name]⟩

/-- What a path names. Of absolute paths only those into the working directory are known, unless they
are noted. -/
def look (t : FileTree) (p : Path) : Entry :=
  match t.noted.find? fun e => e.1 = p with
  | some (_, entry) => entry
  | none =>
    if pathLimit < byteSize p.text then .tooLong
    else if p.root = "" ∨ p.root = t.home ++ "/" then t.walk [] 0 p.names
    else
      match p.names with
      | [] => .directory
      | name :: _ => unknown name

/-- Whether a path names something. -/
def has (t : FileTree) (p : Path) : Bool := t.look p ≠ .missing ∧ t.look p ≠ .tooLong

end FileTree

end TypedRecord
