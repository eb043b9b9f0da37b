import TypedRecord.Yaml.Property
import TypedRecord.Yaml.Scalar

/-!
# TypedRecord.Yaml.Token

The tokens of a text.

Structure that is written by indentation becomes explicit here: where a line is indented deeper a
list or a mapping starts, and where one is indented less the structures inside end.

Only at its colon does it show that something was a key. Until then it is a *candidate*: a place in
the tokens where the sign of a key, and possibly the start of a mapping, may still be entered. There
is at most one candidate for each depth of brackets. A candidate is dropped when its line ends or it
gets too long; where only a key can stand, dropping it is an error.

Where a text cannot be split any further its tokens end with a `fault`. Who reads the tokens may find
something wrong with those before it, and then that comes first. A text may also be broken off, because
what comes next could not be got; then nothing that touches its end is a token.
-/

namespace TypedRecord.Yaml

/-- Why the tokens of a text, or the tree that they spell, cannot be read any further: the text is
malformed, or ends inside quotes; an escape in it is beyond all characters, a number in a directive has too
many digits, its structure is too deep, or it breaks off where bytes are no text. -/
inductive Fault
  | malformed
  | unclosed
  | undecodable (fault : Text.Utf8Fault)
  | beyond (n : Nat)
  | tooManyDigits (digits : Nat)
  | tooDeep
  deriving DecidableEq, Inhabited, Repr

/-- How deep collections may be inside each other. -/
def nestingLimit : Nat := 488

/-- A token. -/
inductive Token
  | directive (d : Directive)
  | documentStart
  | documentEnd
  | listStart
  | mappingStart
  | blockEnd
  | flowListStart
  | flowListEnd
  | flowMappingStart
  | flowMappingEnd
  | item
  | comma
  | key
  | value
  | reference (name : String)
  | anchor (name : String)
  | tag (handle : Option String) (suffix : String)
  | text (content : String) (plain : Bool)
  | fault (f : Fault)
  deriving DecidableEq, Inhabited, Repr

/-- What may turn out to be a key: the place in the tokens where it begins, whether nothing but a key
can stand there, and where it was met. -/
structure Candidate where
  place : Nat
  required : Bool
  offset : Nat
  line : Nat
  column : Nat
  deriving Inhabited, Repr

/-- How far a text is split into tokens. Every place of `tokens` holds the tokens entered there. -/
structure Lexer where
  cursor : Cursor
  depth : Nat := 0
  indent : Int := -1
  indents : List Int := []
  keyAllowed : Bool := true
  candidates : List (Nat × Candidate) := []
  tokens : Array (List Token) := #[]
  deriving Inhabited

/-- Whether a candidate is on another line than a cursor, or begins too far before it. -/
def Candidate.isStale (k : Candidate) (c : Cursor) : Bool :=
  k.line != c.line || 1024 < c.offset - k.offset

namespace Lexer

/-- The tokens that were entered. -/
def entered (s : Lexer) : List Token := s.tokens.toList.flatten

/-- The tokens before the first candidate. Only they are certain. -/
def settled (s : Lexer) : List Token :=
  let places := (s.candidates.filter fun e => !e.2.isStale s.cursor).map fun e => e.2.place
  (s.tokens.toList.take (places.foldl min s.tokens.size)).flatten

end Lexer

/-- A step of splitting a text; it may find that the text has no tokens here. -/
abbrev Lex (α : Type) : Type := StateT Lexer (Except Fault) α

namespace Lex

/-- The text has no tokens here. -/
def stop {α : Type} : Lex α := throw .malformed

/-- Enters a token at the end. -/
def emit (t : Token) : Lex Unit := modify fun s => { s with tokens := s.tokens.push [t] }

/-- Moves the cursor. -/
def move (f : Cursor → Cursor) : Lex Unit := modify fun s => { s with cursor := f s.cursor }

/-- Enters the token of a sign of `n` characters. -/
def sign (t : Token) (n : Nat := 1) : Lex Unit := do
  move (Cursor.advance n)
  emit t

/-- Reads a part of the text. -/
def scan {α : Type} (f : Scan α) : Lex α := do
  match f (← get).cursor with
  | some (a, c) => do
    modify fun s => { s with cursor := c }
    pure a
  | none => stop

/-- Says whether a key may come next. -/
def allowKey (allowed : Bool) : Lex Unit := modify fun s => { s with keyAllowed := allowed }

/-! ### Indentation -/

/-- How many structures end before a column, and the indentations that are left. -/
def unwound (column : Int) : Int → List Int → Nat × Int × List Int
  | indent, [] => (0, indent, [])
  | indent, outer :: rest =>
    if column < indent then
      let (n, indent, rest) := unwound column outer rest
      (n + 1, indent, rest)
    else (0, indent, outer :: rest)

/-- Ends the structures that are indented deeper than a column. Brackets do not heed indentation. -/
def unwind (column : Int) : Lex Unit := modify fun s =>
  if s.depth = 0 then
    let (n, indent, rest) := unwound column s.indent s.indents
    { s with
      indent := indent
      indents := rest
      tokens := s.tokens.push (List.replicate n .blockEnd) }
  else s

/-- Makes a column the indentation if it is deeper than the present one, and tells whether it
was. -/
def deepen (column : Nat) : Lex Bool := do
  let s ← get
  if s.indent < column then
    set { s with indent := column, indents := s.indent :: s.indents }
    pure true
  else pure false

/-! ### Candidates for keys -/

/-- Drops the candidates that are on another line or too long. -/
def dropStale : Lex Unit := do
  let s ← get
  if s.candidates.any fun e => e.2.isStale s.cursor && e.2.required then stop
  else set { s with candidates := s.candidates.filter fun e => !e.2.isStale s.cursor }

/-- Drops the candidate between the present brackets. -/
def dropCandidate : Lex Unit := do
  let s ← get
  if s.candidates.any fun e => e.1 == s.depth && e.2.required then stop
  else set { s with candidates := s.candidates.filter fun e => e.1 != s.depth }

/-- Makes what comes next a candidate, if a key may come next. -/
def addCandidate : Lex Unit := do
  let s ← get
  if s.keyAllowed then
    dropCandidate
    let c := s.cursor
    let required := s.depth == 0 && s.indent == (c.column : Int)
    let candidate := ⟨s.tokens.size, required, c.offset, c.line, c.column⟩
    modify fun s => { s with
      candidates := (s.depth, candidate) :: s.candidates
      tokens := s.tokens.push [] }

/-! ### Signs -/

/-- A line that delimits documents. -/
def separator (t : Token) : Lex Unit := do
  unwind (-1)
  dropCandidate
  allowKey false
  sign t 3

/-- A directive. -/
def directiveLine : Lex Unit := do
  unwind (-1)
  dropCandidate
  allowKey false
  match ← scan directive with
  | .ok d => emit (.directive d)
  | .error digits => throw (.tooManyDigits digits)

/-- An opening bracket. -/
def opening (t : Token) : Lex Unit := do
  if nestingLimit < (← get).depth then throw .tooDeep
  addCandidate
  modify fun s => { s with depth := s.depth + 1 }
  allowKey true
  sign t

/-- A closing bracket. -/
def closing (t : Token) : Lex Unit := do
  dropCandidate
  modify fun s => { s with depth := s.depth - 1 }
  allowKey false
  sign t

/-- The comma between brackets. -/
def comma : Lex Unit := do
  allowKey true
  dropCandidate
  sign .comma

/-- Starts a structure at the cursor's column, if that is deeper than the present one. Outside
brackets it has to be a place for keys. -/
def start (t : Token) : Lex Unit := do
  let s ← get
  if s.depth = 0 then
    if !s.keyAllowed then stop
    if ← deepen s.cursor.column then emit t

/-- The dash before an item of a list. -/
def item : Lex Unit := do
  start .listStart
  allowKey true
  dropCandidate
  sign .item

/-- The question mark before a key. -/
def key : Lex Unit := do
  start .mappingStart
  allowKey ((← get).depth == 0)
  dropCandidate
  sign .key

/-- The colon before a value. With it, a candidate becomes a key. -/
def value : Lex Unit := do
  let s ← get
  match s.candidates.find? fun e => e.1 == s.depth with
  | some (_, k) =>
    modify fun s => { s with candidates := s.candidates.filter fun e => e.1 != s.depth }
    let starts ← if s.depth = 0 then deepen k.column else pure false
    let entered := if starts then [.mappingStart, .key] else [.key]
    modify fun s => { s with tokens := s.tokens.modify k.place fun _ => entered }
    allowKey false
  | none =>
    start .mappingStart
    allowKey (s.depth == 0)
    dropCandidate
  sign .value

/-- Something that may be a key, and after which no key can come on the same line. -/
def atom (read : Lex Token) : Lex Unit := do
  addCandidate
  allowKey false
  emit (← read)

/-- A block of text. -/
def block (fold : Bool) : Lex Unit := do
  allowKey true
  dropCandidate
  let indent := (← get).indent
  emit (.text (← scan (Yaml.block fold indent)) false)

/-- Plain text. If it ends behind a line break, a key may come next. -/
def plain : Lex Token := do
  let s ← get
  let (text, crossed, c) := Yaml.plain (s.depth != 0) (s.indent + 1) s.cursor
  set { s with cursor := c, keyAllowed := crossed }
  pure (.text text true)

/-- Quoted text. -/
def quoted (double : Bool) : Lex Token := do
  match ← scan (Yaml.quoted double) with
  | .ok text => pure (.text text false)
  | .error (.beyond n) => throw (.beyond n)
  | .error .unclosed => throw .unclosed

/-- The signs that cannot begin plain text. -/
def signs : List Char := ['-', '?', ':', ',', '[', ']', '{', '}', '#', '&', '*', '!', '|', '>', '\'',
  '"', '%', '@', '\x60']

/-- Whether plain text begins at a character. -/
def beginsPlain (inFlow : Bool) (c : Char) (next : Option Char) : Bool :=
  !(isGap c || signs.contains c) ||
    (!endsWord next && (c == '-' || (!inFlow && (c == '?' || c == ':'))))

/-- Skips what is between two tokens: blanks, comments and line breaks. Outside brackets a key may
come after a line break. -/
def skipGap : Nat → Lex Unit
  | 0 => pure ()
  | fuel + 1 => do
    let s ← get
    let c := if s.cursor.offset = 0 && s.cursor.peek == some '\ufeff' then s.cursor.step else s.cursor
    let c := c.skipSpaces.skipComment
    match c.lineBreak? with
    | none => set { s with cursor := c }
    | some (_, c) => do
      set { s with cursor := c, keyAllowed := s.keyAllowed || s.depth == 0 }
      skipGap fuel

/-- Reads the next token, or the end of the text, after which there is none. `fuel` is more than the
number of characters that are left. -/
def next (fuel : Nat) : Lex Bool := do
  skipGap fuel
  dropStale
  unwind (← get).cursor.column
  let s ← get
  let c := s.cursor
  match c.peek with
  | none => do
    unwind (-1)
    dropCandidate
    pure false
  | some x => do
    let alone := endsWord (c.peek 1)
    let inFlow := s.depth != 0
    if x == '%' && c.column == 0 then directiveLine
    else if x == '-' && c.column == 0 && c.atSeparator then separator .documentStart
    else if x == '.' && c.column == 0 && c.atSeparator then separator .documentEnd
    else if x == '[' then opening .flowListStart
    else if x == '{' then opening .flowMappingStart
    else if x == ']' then closing .flowListEnd
    else if x == '}' then closing .flowMappingEnd
    else if x == ',' then comma
    else if x == '-' && alone then item
    else if x == '?' && (inFlow || alone) then key
    else if x == ':' && (inFlow || alone) then value
    else if x == '*' then atom (Token.reference <$> scan anchorName)
    else if x == '&' then atom (Token.anchor <$> scan anchorName)
    else if x == '!' then atom ((fun w => Token.tag w.1 w.2) <$> scan tag)
    else if x == '|' && !inFlow then block false
    else if x == '>' && !inFlow then block true
    else if x == '\'' then atom (quoted false)
    else if x == '"' then atom (quoted true)
    else if beginsPlain inFlow x (c.peek 1) then atom plain
    else stop
    pure true

/-- All tokens of a text, which may be broken off. Each takes a character at least. -/
def all (broken : Option Fault) : Nat → Lexer → List Token
  | 0, s => s.entered
  | fuel + 1, s =>
    match (next (fuel + 1)).run s, broken with
    | .ok (true, after), none => all broken fuel after
    | .ok (false, after), none => after.entered
    | .ok (_, after), some f =>
      if after.cursor.atEnd then s.settled ++ [.fault f] else all broken fuel after
    | .error .unclosed, some f => s.settled ++ [.fault f]
    | .error f, _ => s.settled ++ [.fault f]

end Lex

/-- The tokens of a text, which may be broken off. -/
def tokens (text : List Char) (broken : Option Fault := none) : List Token :=
  Lex.all broken (text.length + 1) { cursor := .ofText text }

end TypedRecord.Yaml
