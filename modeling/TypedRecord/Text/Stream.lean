import TypedRecord.Numeric.Double
import TypedRecord.Text.Utf8

/-!
# TypedRecord.Text.Stream

The text of a file that is read bit by bit.

Bytes are fetched in chunks as characters are asked for. A chunk may end inside a character, whose bytes
then wait for the next chunk, and a carriage return at its end waits for the newline that may follow.
A fault among the bytes shows when its chunk is fetched, and its place is counted from the first byte
that was waiting then, or else from the front of the chunk.
-/

namespace TypedRecord.Text

/-- What is left to read: bytes that are not fetched yet, those that wait for their character to be
complete, whether a carriage return waits, and characters that nobody has asked for yet. `chunk` tells how
many bytes the last chunk had, and how many characters came of it. -/
structure Stream where
  bytes : List UInt8
  begun : List UInt8 := []
  carriage : Bool := false
  ready : List Char := []
  chunk : Nat × Nat := (0, 0)
  deriving Inhabited

/-- Whether a byte can only follow others. -/
def isFollower (b : UInt8) : Bool := 0x80 ≤ b.toNat && b.toNat ≤ 0xBF

/-- Whether a fault in the bytes of a chunk and those before it may yet be none: the last character goes
on behind the chunk. Of a surrogate, which is no character, this shows with its third byte only. -/
def Utf8Fault.waits (fault : Utf8Fault) (bytes : List UInt8) : Bool :=
  fault.reason == .truncated ||
    (fault.byte == 0xED && fault.offset + 2 == bytes.length && bytes.getLast?.any isFollower)

namespace Stream

/-- The least number of bytes in a chunk. -/
def leastChunk : Nat := 8192

/-- The number of bytes to fetch for some characters: enough for them if characters go on taking as many
bytes as in the last chunk. -/
def chunkFor (s : Stream) (wanted : Nat) : Nat :=
  let (bytes, chars) := s.chunk
  if chars = 0 || bytes ≤ chars then max leastChunk wanted
  else max leastChunk ((Double.ofRatio false bytes chars).mul (.ofInt wanted)).wholePart

/-- Characters as they are handed out, behind a carriage return that may be waiting: all line breaks are
newlines. A carriage return at their end waits, unless they are the last. -/
def withCarriage (waiting isLast : Bool) (cs : List Char) : List Char × Bool :=
  let held := waiting && !isLast && cs.isEmpty
  let cs := if waiting && !held then '\r' :: cs else cs
  if !isLast && cs.getLast? == some '\r' then (withNewlines cs.dropLast, true)
  else (withNewlines cs, held)

/-- The stream behind a chunk of a size, which brought some characters and in which the bytes `begun`
have to wait. A last chunk that brings nothing leaves nothing to read. -/
def behind (s : Stream) (size : Nat) (begun : List UInt8) (cs : List Char) : Option Stream :=
  let isLast := size == 0
  let (cs, carriage) := withCarriage s.carriage isLast cs
  if isLast && cs.isEmpty then none
  else some ⟨s.bytes.drop size, begun, carriage, s.ready ++ cs, (size, cs.length)⟩

/-- Fetches the next chunk, which is the last one if nothing is in it. -/
def fetch (wanted : Nat) (s : Stream) : Except Utf8Fault (Option Stream) :=
  let chunk := s.bytes.take (s.chunkFor wanted)
  let input := s.begun ++ chunk
  match decodeFrom [] 0 0 input with
  | (cs, none) => .ok (s.behind chunk.length [] cs)
  | (cs, some fault) =>
    if !chunk.isEmpty && fault.waits input then
      .ok (s.behind chunk.length (input.drop fault.offset) cs)
    else .error fault

/-- Reads so many characters, or all that are left. Every chunk but the last one has a byte at least. -/
def readFrom (wanted : Nat) : Nat → Stream → Except Utf8Fault (List Char × Stream)
  | 0, s => .ok (s.ready, { s with ready := [] })
  | fuel + 1, s =>
    if wanted ≤ s.ready.length then
      .ok (s.ready.take wanted, { s with ready := s.ready.drop wanted })
    else do
      match ← s.fetch (wanted - s.ready.length) with
      | none => .ok (s.ready, { s with ready := [] })
      | some s => readFrom wanted fuel s

/-- Reads so many characters, or all that are left. -/
def read (wanted : Nat) (s : Stream) : Except Utf8Fault (List Char × Stream) :=
  s.readFrom wanted (s.bytes.length + 3)

end Stream

end TypedRecord.Text
