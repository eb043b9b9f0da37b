import TypedRecord.Text.Stream
import TypedRecord.Yaml.Token

/-!
# TypedRecord.Yaml.Source

Where text comes from.

Not every character may stand in a text. A text that is at hand is looked through before anything in it is
read. The text of a file arrives in pieces, each of which is looked through when it arrives, and a piece is
asked for only when what is there has been read: so what is wrong with the text so far comes before what
is wrong with a later piece.
-/

namespace TypedRecord.Yaml

/-- Whether a text may hold a code point. -/
def isAdmitted (n : Nat) : Bool :=
  n == 0x09 || n == 0x0A || n == 0x0D || n == 0x85 || (0x20 ≤ n && n ≤ 0x7E) ||
    (0xA0 ≤ n && n ≤ 0xD7FF) || (0xE000 ≤ n && n ≤ 0xFFFD) || 0x10000 ≤ n

/-- A text that can be read, and what it breaks off with, if it does. -/
structure Source where
  text : List Char
  broken : Option Fault := none
  deriving DecidableEq, Inhabited, Repr

namespace Source

/-- A text at hand. -/
def ofText (text : String) : Source :=
  if (Text.pointsOf text).all isAdmitted then ⟨text.toList, none⟩ else ⟨[], some .malformed⟩

/-- The number of characters in a piece. -/
def pieceSize : Nat := 4096

/-- What arrives of a stream, behind characters that have arrived. Every piece has a character at least. -/
def arriving : Nat → Text.Stream → List Char → Source
  | 0, _, there => ⟨there, none⟩
  | fuel + 1, stream, there =>
    match stream.read pieceSize with
    | .error fault => ⟨there, some (.undecodable fault)⟩
    | .ok ([], _) => ⟨there, none⟩
    | .ok (piece, stream) =>
      if piece.all fun c => isAdmitted c.toNat then
        arriving fuel stream (there ++ piece.flatMap Text.spellChar)
      else ⟨there, some .malformed⟩

/-- The text of a file. The first two pieces arrive together. -/
def ofBytes (bytes : List UInt8) : Source :=
  let start : Except Text.Utf8Fault (List Char × Text.Stream) := do
    let (first, stream) ← Text.Stream.read pieceSize { bytes := bytes }
    let (second, stream) ← stream.read pieceSize
    .ok (first ++ second, stream)
  match start with
  | .error fault => ⟨[], some (.undecodable fault)⟩
  | .ok (piece, stream) =>
    if piece.all fun c => isAdmitted c.toNat then
      arriving (bytes.length + 1) stream (piece.flatMap Text.spellChar)
    else ⟨[], some .malformed⟩

end Source

end TypedRecord.Yaml
