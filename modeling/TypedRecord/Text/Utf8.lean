import TypedRecord.Text.CodePoint

/-!
# TypedRecord.Text.Utf8

Reading bytes as text, and writing text as bytes.

The bytes of a character are a lead byte, which says how many follow, and the bytes that follow. Of
the sequences that a reader by shape alone would accept, overlong ones, surrogates and numbers beyond
the last character are excluded by bounds on the first byte that follows. What is no text is reported
by the first byte and the number of bytes that were still in order.
-/

namespace TypedRecord.Text

/-- What keeps bytes from being text. -/
inductive Utf8Reason
  | badStart
  | badContinuation
  | truncated
  deriving DecidableEq, Inhabited, Repr

/-- A fault: the reason, the byte it begins with, its place and its length. -/
structure Utf8Fault where
  reason : Utf8Reason
  byte : UInt8
  offset : Nat
  length : Nat
  deriving DecidableEq, Inhabited, Repr

/-- The wording of a reason. -/
def Utf8Reason.message : Utf8Reason → String
  | badStart => "invalid start byte"
  | badContinuation => "invalid continuation byte"
  | truncated => "unexpected end of data"

/-- What a lead byte says: its share of the character's number, and for each byte that follows the
least and the greatest it may be. -/
structure Lead where
  share : Nat
  bounds : List (Nat × Nat)

/-- The bounds of a byte that follows, where nothing else is said. -/
def anyFollower : Nat × Nat := (0x80, 0xBF)

/-- What a byte says as a lead byte, if it can be one. -/
def Lead.of? (b : Nat) : Option Lead :=
  if b < 0x80 then some ⟨b, []⟩
  else if b < 0xC2 then none
  else if b < 0xE0 then some ⟨b - 0xC0, [anyFollower]⟩
  else if b < 0xF0 then
    let first := if b = 0xE0 then (0xA0, 0xBF) else if b = 0xED then (0x80, 0x9F) else anyFollower
    some ⟨b - 0xE0, [first, anyFollower]⟩
  else if b < 0xF5 then
    let first := if b = 0xF0 then (0x90, 0xBF) else if b = 0xF4 then (0x80, 0x8F) else anyFollower
    some ⟨b - 0xF0, [first, anyFollower, anyFollower]⟩
  else none

/-- Adds bytes that follow to a number, and tells how many there were; or the reason why they do not
follow, with the number of bytes in order. -/
def follow (n : Nat) : List (Nat × Nat) → List UInt8 → Except (Utf8Reason × Nat) Nat
  | [], _ => .ok n
  | _ :: _, [] => .error (.truncated, 0)
  | (least, greatest) :: bounds, b :: bytes =>
    if least ≤ b.toNat ∧ b.toNat ≤ greatest then
      (follow (n * 64 + (b.toNat - 0x80)) bounds bytes).mapError fun e => (e.1, e.2 + 1)
    else .error (.badContinuation, 0)

/-- The characters that bytes spell, up to the first fault among them, behind those that are `done`, last
first. `skip` bytes at the front belong to the character before. -/
def decodeFrom (done : List Char) (offset skip : Nat) : List UInt8 → List Char × Option Utf8Fault
  | [] => (done.reverse, none)
  | b :: bytes =>
    match skip with
    | skip + 1 => decodeFrom done (offset + 1) skip bytes
    | 0 =>
      match Lead.of? b.toNat with
      | none => (done.reverse, some ⟨.badStart, b, offset, 1⟩)
      | some lead =>
        match follow lead.share lead.bounds bytes with
        | .error (reason, n) => (done.reverse, some ⟨reason, b, offset, n + 1⟩)
        | .ok n => decodeFrom (Char.ofNat n :: done) (offset + 1) lead.bounds.length bytes

/-- The text that bytes spell. -/
def decodeUtf8 (bytes : List UInt8) : Except Utf8Fault String :=
  match decodeFrom [] 0 0 bytes with
  | (cs, none) => .ok (ofChars cs)
  | (_, some fault) => .error fault

/-- The bytes of a text; lone units have none. -/
def encodeUtf8 (s : String) : List UInt8 := (String.ofList (charsOf s)).toUTF8.toList

/-- A text with every line break written as a newline. -/
def withNewlines : List Char → List Char
  | '\r' :: '\n' :: rest => '\n' :: withNewlines rest
  | '\r' :: rest => '\n' :: withNewlines rest
  | c :: rest => c :: withNewlines rest
  | [] => []

end TypedRecord.Text
