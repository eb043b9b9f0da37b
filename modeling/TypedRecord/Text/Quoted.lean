import TypedRecord.Text.CodePoint
import TypedRecord.Text.Printable

/-!
# TypedRecord.Text.Quoted

Texts and byte strings as quoted literals.

A literal stands between single quotes, or between double quotes when the content has a single quote
and no double one. The delimiter and the backslash are escaped by a backslash, newline, carriage
return and tab have escapes of their own, and every other unprintable code point is written by its
number in two, four or eight hexadecimal digits.
-/

namespace TypedRecord.Text

/-- The delimiter of a literal with the given content. -/
def delimiter (content : List Char) : Char :=
  if content.contains '\'' && !content.contains '"' then '"' else '\''

/-- `n` in lower-case hexadecimal, padded with zeros to `width` digits. -/
def hex (width n : Nat) : List Char :=
  let ds := Nat.toDigits 16 n
  List.replicate (width - ds.length) '0' ++ ds

/-- The escape of a code point by its number. -/
def numericEscape (n : Nat) : List Char :=
  if n ≤ 0xFF then '\\' :: 'x' :: hex 2 n
  else if n ≤ 0xFFFF then '\\' :: 'u' :: hex 4 n
  else '\\' :: 'U' :: hex 8 n

/-- A text with its lone units written as escapes. -/
def withUnitsEscaped (s : String) : String :=
  String.ofList ((pointsOf s).flatMap fun n => if isSurrogate n then numericEscape n else spell n)

/-- One character inside a literal. -/
def quoteChar (delim c : Char) : List Char :=
  if c = delim ∨ c = '\\' then ['\\', c]
  else if c = '\n' then ['\\', 'n']
  else if c = '\r' then ['\\', 'r']
  else if c = '\t' then ['\\', 't']
  else if isPrintable c then [c]
  else numericEscape c.toNat

/-- One code point inside a literal. -/
def quotePoint (delim : Char) (n : Nat) : List Char :=
  if isSurrogate n then numericEscape n else quoteChar delim (Char.ofNat n)

/-- A text as a quoted literal. -/
def quote (s : String) : String :=
  let cs := s.toList
  let delim := delimiter cs
  String.ofList (delim :: (points cs).flatMap (quotePoint delim) ++ [delim])

/-- One byte inside a literal, where some characters are escaped besides the backslash. Bytes above
ASCII are always written by number. -/
def quoteByte (escaped : Char) (b : UInt8) : List Char :=
  let c := Char.ofNat b.toNat
  if c.toNat < 0x7F then quoteChar escaped c else '\\' :: 'x' :: hex 2 c.toNat

/-- A byte string as a literal marked with `b`, in which the delimiter given last is escaped. -/
def quoteBytesWith (bytes : List UInt8) (delim escaped : Char) : String :=
  String.ofList ('b' :: delim :: bytes.flatMap (quoteByte escaped) ++ [delim])

/-- The delimiter of a byte string's literal. -/
def byteDelimiter (bytes : List UInt8) : Char :=
  delimiter (bytes.map fun b => Char.ofNat b.toNat)

/-- A byte string as a literal marked with `b`. -/
def quoteBytes (bytes : List UInt8) : String :=
  let delim := byteDelimiter bytes
  quoteBytesWith bytes delim delim

/-- A byte buffer's content as a literal marked with `b`. A single quote is escaped in it even where
it does not delimit. -/
def quoteBuffer (bytes : List UInt8) : String := quoteBytesWith bytes (byteDelimiter bytes) '\''

end TypedRecord.Text
