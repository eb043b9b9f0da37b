import TypedRecord.Text.CodePoint

/-!
# TypedRecord.Yaml.Cursor

A place in a text, and moving through it.

A `Cursor` is what is left of a text together with the line and the column it begins at. Line and
column decide what a text means: mappings and lists are delimited by columns, and a key has to stand
on one line with its colon.
-/

namespace TypedRecord.Yaml

/-- What is left of a text, the number of code points before it, and where it begins. -/
structure Cursor where
  rest : List Char
  offset : Nat := 0
  line : Nat := 0
  column : Nat := 0
  deriving DecidableEq, Inhabited, Repr

/-- The characters that end a line. -/
def isBreak (c : Char) : Bool :=
  c == '\n' || c == '\r' || c == '\x85' || c == '\u2028' || c == '\u2029'

/-- The characters that separate words on a line. -/
def isBlank (c : Char) : Bool := c == ' ' || c == '\t'

/-- The characters that end a word. -/
def isGap (c : Char) : Bool := isBlank c || isBreak c

/-- Whether a word ends before a character; it does at the end of the text. -/
def endsWord : Option Char → Bool
  | none => true
  | some c => isGap c

/-- Whether a line ends before a character; it does at the end of the text. -/
def endsLine : Option Char → Bool
  | none => true
  | some c => isBreak c

namespace Cursor

/-- The cursor at the front of a text. -/
def ofText (text : List Char) : Cursor := { rest := text }

/-- The character that comes after `n` others. -/
def peek (c : Cursor) (n : Nat := 0) : Option Char := c.rest[n]?

/-- Whether nothing is left. -/
def atEnd (c : Cursor) : Bool := c.rest.isEmpty

/-- The cursor behind one character. A carriage return before a newline ends no line of its own, and
a byte order mark takes no column. A sign of spelling belongs to the character behind it. -/
def step (c : Cursor) : Cursor :=
  match c.rest with
  | [] => c
  | x :: rest =>
    if isBreak x && !(x == '\r' && rest.head? == some '\n') then
      ⟨rest, c.offset + 1, c.line + 1, 0⟩
    else if x == Text.literalSign then { c with rest }
    else ⟨rest, c.offset + 1, c.line, if x == '\ufeff' then c.column else c.column + 1⟩

/-- The cursor behind `n` characters. -/
def advance : Nat → Cursor → Cursor
  | 0, c => c
  | n + 1, c => advance n c.step

/-- The characters at the front that have a property. -/
def run (c : Cursor) (p : Char → Bool) : List Char := c.rest.takeWhile p

/-- The cursor behind the characters at the front that have a property. -/
def skipWhile (c : Cursor) (p : Char → Bool) : Cursor := c.advance (c.run p).length

/-- The cursor behind the spaces at the front. -/
def skipSpaces (c : Cursor) : Cursor := c.skipWhile (· == ' ')

/-- The cursor behind a comment, if one begins here. -/
def skipComment (c : Cursor) : Cursor :=
  if c.peek == some '#' then c.skipWhile fun x => !isBreak x else c

/-- A line break at the front and the cursor behind it. All breaks read as a newline, except for the
separators of lines and paragraphs, which stand for themselves. -/
def lineBreak? (c : Cursor) : Option (Char × Cursor) :=
  match c.rest with
  | '\r' :: '\n' :: _ => some ('\n', c.advance 2)
  | x :: _ =>
    if x == '\u2028' || x == '\u2029' then some (x, c.step)
    else if isBreak x then some ('\n', c.step)
    else none
  | [] => none

/-- The cursor behind a line break, if one is here. -/
def skipBreak (c : Cursor) : Cursor := (c.lineBreak?.map Prod.snd).getD c

/-- The cursor behind the blank rest of a line, which may hold a comment, and its line break. -/
def restOfLine? (c : Cursor) : Option Cursor :=
  let after := c.skipSpaces.skipComment
  if endsLine after.peek then some after.skipBreak else none

/-- Whether one of the lines that delimit documents begins here. -/
def atSeparator (c : Cursor) : Bool :=
  let marker := c.rest.take 3
  (marker == ['-', '-', '-'] || marker == ['.', '.', '.']) && endsWord (c.peek 3)

@[simp] theorem rest_step (c : Cursor) : c.step.rest = c.rest.drop 1 := by
  unfold step
  split
  next h => simp [h]
  next h =>
    split
    · simp [h]
    · split <;> simp [h]

/-- Moving forward drops characters. -/
@[simp] theorem rest_advance (n : Nat) (c : Cursor) : (c.advance n).rest = c.rest.drop n := by
  induction n generalizing c with
  | zero => simp [advance]
  | succ n ih => simp [advance, ih]

end Cursor

/-- A reader of a part of a text: it answers what it read and where it ended, or that nothing of the
kind is here. -/
abbrev Scan (α : Type) : Type := Cursor → Option (α × Cursor)

end TypedRecord.Yaml
