import TypedRecord.Numeric.Reading
import TypedRecord.Text.CodePoint
import TypedRecord.Yaml.Cursor

/-!
# TypedRecord.Yaml.Scalar

The forms in which a text is written.

* `plain`: bare words. They end where a sign of structure begins, and may go on over several lines.
* `quoted`: between single or double quotes; only double quotes know escapes.
* `block`: the indented lines after a bar, kept as they are, or after an angle, folded.

Lines that are folded are joined by a space; a blank line between two of them stands for a newline.
-/

namespace TypedRecord.Yaml

/-! ### Plain text -/

/-- The signs that end plain text inside brackets. -/
def flowSigns : List Char := [',', '?', '[', ']', '{', '}']

/-- Whether plain text ends before a character. -/
def endsPlain (inFlow : Bool) (c : Char) (rest : List Char) : Bool :=
  isGap c ||
  (c == ':' && (endsWord rest.head? ||
    (inFlow && (rest.head?.map [',', '[', ']', '{', '}'].contains).getD false))) ||
  (inFlow && flowSigns.contains c)

/-- The length of the word of plain text at the front. -/
def plainLength (inFlow : Bool) : List Char → Nat
  | [] => 0
  | c :: rest => if endsPlain inFlow c rest then 0 else plainLength inFlow rest + 1

/-- The line breaks, as characters, of blank lines; none if a line that delimits documents
follows. -/
def blankLines : Nat → Cursor → Option (List Char × Cursor)
  | 0, c => some ([], c)
  | fuel + 1, c =>
    let c := c.skipSpaces
    match c.lineBreak? with
    | none => some ([], c)
    | some (b, after) =>
      if after.atSeparator then none
      else (blankLines fuel after).map fun (bs, c) => (b :: bs, c)

/-- What folding makes of a line break followed by blank lines. -/
def folded (first : Char) (breaks : List Char) : List Char :=
  if first != '\n' then first :: breaks
  else if breaks.isEmpty then [' '] else breaks

/-- What is between two words of plain text. -/
structure PlainGap where
  text : List Char
  crossesLine : Bool
  after : Cursor

/-- The gap after a word of plain text. It has no text where the plain text cannot go on. -/
def plainGap (c : Cursor) : PlainGap :=
  let spaces := c.run (· == ' ')
  let c := c.advance spaces.length
  match c.lineBreak? with
  | none => ⟨spaces, false, c⟩
  | some (first, after) =>
    if after.atSeparator then ⟨[], true, after⟩
    else
      match blankLines after.rest.length after with
      | some (breaks, c) => ⟨folded first breaks, true, c⟩
      | none => ⟨[], true, after⟩

/-- Plain text: the characters, whether a line was crossed at its end, and where it ended. -/
def plainFrom (inFlow : Bool) (indent : Int) :
    Nat → List Char → Bool → Cursor → List Char × Bool × Cursor
  | 0, _, crossed, c => ([], crossed, c)
  | fuel + 1, gap, crossed, c =>
    let n := if c.peek == some '#' then 0 else plainLength inFlow c.rest
    if n = 0 then ([], crossed, c)
    else
      let word := c.rest.take n
      let next := plainGap (c.advance n)
      let here := gap ++ word
      if next.text.isEmpty || next.after.peek == some '#' ||
          (!inFlow && decide ((next.after.column : Int) < indent)) then
        (here, next.crossesLine, next.after)
      else
        let (more, crossed, c) := plainFrom inFlow indent fuel next.text next.crossesLine next.after
        (here ++ more, crossed, c)

/-- Plain text at a place where lines must be indented by `indent` to belong to it. Also answers
whether it ends behind a line break. -/
def plain (inFlow : Bool) (indent : Int) (c : Cursor) : String × Bool × Cursor :=
  let (text, crossed, after) := plainFrom inFlow indent (c.rest.length + 1) [] false c
  (String.ofList text, crossed, after)

/-! ### Quoted text -/

/-- The character that a one-letter escape stands for. -/
def simpleEscape? (c : Char) : Option Char :=
  match c with
  | '0' => some '\x00'
  | 'a' => some '\x07'
  | 'b' => some '\x08'
  | 't' | '\t' => some '\t'
  | 'n' => some '\n'
  | 'v' => some '\x0b'
  | 'f' => some '\x0c'
  | 'r' => some '\r'
  | 'e' => some '\x1b'
  | ' ' => some ' '
  | '"' => some '"'
  | '\\' => some '\\'
  | '/' => some '/'
  | 'N' => some '\x85'
  | '_' => some '\xa0'
  | 'L' => some '\u2028'
  | 'P' => some '\u2029'
  | _ => none

/-- The number of digits in an escape by number. -/
def escapeWidth? (c : Char) : Option Nat :=
  match c with
  | 'x' => some 2
  | 'u' => some 4
  | 'U' => some 8
  | _ => none

/-- An escape, of which the cursor is behind the backslash. A number may be beyond all characters. A
line break that is escaped disappears, together with the blank lines after it and the blanks at the
front of the next line. -/
inductive Escape
  | point (n : Nat)
  | beyond (n : Nat)
  | join

/-- Reads an escape. -/
def escape (c : Cursor) : Option (Escape × Cursor) := do
  let x ← c.peek
  match simpleEscape? x, escapeWidth? x with
  | some y, _ => some (.point y.toNat, c.step)
  | none, some width =>
    let digits := (c.rest.drop 1).take width
    if digits.length < width then none
    else
      let n ← readNat? 16 digits
      let read := if n < 0x110000 then Escape.point n else .beyond n
      some (read, c.advance (width + 1))
  | none, none => if isBreak x then some (.join, c.skipBreak) else none

/-- The line breaks of blank lines inside quotes. A line that delimits documents may not be
there. -/
def quotedBreaks : Nat → Cursor → Option (List Char × Cursor)
  | 0, c => some ([], c)
  | fuel + 1, c =>
    if c.atSeparator then none
    else
      let c := c.skipWhile isBlank
      match c.lineBreak? with
      | none => some ([], c)
      | some (b, after) => (quotedBreaks fuel after).map fun (bs, c) => (b :: bs, c)

/-- Why there is no quoted text: an escape in it is beyond all characters, or the quote is not closed where
the text ends. -/
inductive QuotedFault
  | beyond (n : Nat)
  | unclosed
  deriving DecidableEq, Inhabited, Repr

/-- Quoted text: its characters, or what is wrong with it. -/
abbrev Quoted (α : Type) : Type := Except QuotedFault α

/-- Text up to its closing quote. -/
def quotedFrom (double : Bool) : Nat → Cursor → Option (Quoted (List Char) × Cursor)
  | 0, _ => none
  | fuel + 1, c =>
    match c.rest with
    | [] => some (.error .unclosed, c)
    | x :: rest =>
      let go (text : List Char) (c : Cursor) : Option (Quoted (List Char) × Cursor) :=
        (quotedFrom double fuel c).map fun (more, c) => (more.map (text ++ ·), c)
      if isGap x then
        let blanks := c.run isBlank
        let c := c.advance blanks.length
        match c.lineBreak? with
        | some (first, after) => do
          let (breaks, c) ← quotedBreaks (after.rest.length + 1) after
          go (folded first breaks) c
        | none => go blanks c
      else if double then
        if x == '"' then some (.ok [], c.step)
        else if x == '\\' then
          match escape c.step with
          | some (.point n, c) => go (Text.spell n) c
          | some (.beyond n, c) => some (.error (.beyond n), c)
          | some (.join, c) => do
            let (breaks, c) ← quotedBreaks (c.rest.length + 1) c
            go breaks c
          | none => none
        else go [x] c.step
      else if x == '\'' then
        if rest.head? == some '\'' then go ['\''] (c.advance 2) else some (.ok [], c.step)
      else go [x] c.step

/-- Quoted text, of which the cursor is at the opening quote. -/
def quoted (double : Bool) : Scan (Quoted String) := fun c => do
  let (text, c) ← quotedFrom double (c.rest.length + 1) c.step
  some (text.map String.ofList, c)

/-! ### Blocks -/

/-- What happens to the line breaks at the end of a block: one stays, none stays, all stay. -/
inductive Chomping
  | clip
  | strip
  | keep
  deriving DecidableEq, Inhabited, Repr

/-- A sign that decides about the line breaks at the end of a block. -/
def chomping? : Option Char → Option Chomping
  | some '+' => some .keep
  | some '-' => some .strip
  | _ => none

/-- A digit that gives the indentation of a block. -/
def increment? : Option Char → Option Nat
  | some c => if c.isDigit then some (c.toNat - '0'.toNat) else none
  | none => none

/-- The signs behind a bar or an angle, in either order, and the rest of their line. -/
def blockHeader : Scan (Chomping × Option Nat) := fun c => do
  let ((chomping, increment), c) :=
    match chomping? c.peek with
    | some chomping =>
      let c := c.step
      match increment? c.peek with
      | some n => ((chomping, some n), c.step)
      | none => ((chomping, none), c)
    | none =>
      match increment? c.peek with
      | some n =>
        let c := c.step
        match chomping? c.peek with
        | some chomping => ((chomping, some n), c.step)
        | none => ((.clip, some n), c)
      | none => ((.clip, none), c)
  if increment = some 0 then none
  else if c.peek.any fun x => x != ' ' && !isBreak x then none
  else
    let c ← c.restOfLine?
    some ((chomping, increment), c)

/-- The blank lines at the front of a block whose indentation is not given: their breaks, and the
deepest column that spaces reach. -/
def blockIndentation : Nat → Nat → Cursor → List Char × Nat × Cursor
  | 0, deepest, c => ([], deepest, c)
  | fuel + 1, deepest, c =>
    let spaces := (c.run (· == ' ')).length
    let c := c.advance spaces
    let deepest := if 0 < spaces then max deepest c.column else deepest
    match c.lineBreak? with
    | none => ([], deepest, c)
    | some (b, after) =>
      let (bs, deepest, c) := blockIndentation fuel deepest after
      (b :: bs, deepest, c)

/-- The cursor behind the spaces at the front, but not beyond a column. -/
def Cursor.indentTo (column : Nat) (c : Cursor) : Cursor :=
  c.advance (min (c.run (· == ' ')).length (column - c.column))

/-- The breaks of the blank lines at the front of a block whose lines begin at a column. -/
def blockBreaks (column : Nat) : Nat → Cursor → List Char × Cursor
  | 0, c => ([], c)
  | fuel + 1, c =>
    let c := c.indentTo column
    match c.lineBreak? with
    | none => ([], c)
    | some (b, after) =>
      let (bs, c) := blockBreaks column fuel after
      (b :: bs, c)

/-- The characters of a line break that may be missing. -/
def breakText (b : Option Char) : List Char := b.toList

/-- Whether a line is indented deeper than its block. -/
def startsBlank (c : Cursor) : Bool := c.peek.any isBlank

/-- The lines of a block, each preceded by its blank lines: the text, the last line break, the blank
lines after it, and where the block ended. -/
def blockLines (fold : Bool) (column : Nat) :
    Nat → List Char → Cursor → List Char × Option Char × List Char × Cursor
  | 0, breaks, c => ([], none, breaks, c)
  | fuel + 1, breaks, c =>
    let line := c.run fun x => !isBreak x
    let after := c.advance line.length
    let (last, after) := match after.lineBreak? with
      | some (b, after) => (some b, after)
      | none => (none, after)
    let (next, after') := blockBreaks column (after.rest.length + 1) after
    let here := breaks ++ line
    if after'.column = column && !after'.atEnd then
      let joint :=
        if fold && last == some '\n' && !startsBlank c && !startsBlank after' then
          (if next.isEmpty then [' '] else [])
        else breakText last
      let (more, last, breaks, c) := blockLines fold column fuel next after'
      (here ++ joint ++ more, last, breaks, c)
    else (here, last, next, after')

/-- A block, of which the cursor is at the bar or the angle, below a given indentation. -/
def block (fold : Bool) (indent : Int) : Scan String := fun c => do
  let ((chomping, increment), c) ← blockHeader c.step
  let least := (max 1 (indent + 1)).toNat
  let (breaks, column, c) :=
    match increment with
    | none =>
      let (breaks, deepest, c) := blockIndentation (c.rest.length + 1) 0 c
      (breaks, max least deepest, c)
    | some n =>
      let column := least + n - 1
      let (breaks, c) := blockBreaks column (c.rest.length + 1) c
      (breaks, column, c)
  let (text, last, breaks, c) :=
    if c.column = column && !c.atEnd then blockLines fold column (c.rest.length + 1) breaks c
    else ([], none, breaks, c)
  let ending := match chomping with
    | .strip => []
    | .clip => breakText last
    | .keep => breakText last ++ breaks
  some (String.ofList (text ++ ending), c)

end TypedRecord.Yaml
