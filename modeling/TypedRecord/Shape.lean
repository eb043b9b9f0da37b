import TypedRecord.Refusal
import TypedRecord.Numeric.Reading
import TypedRecord.Text.Blank
import TypedRecord.Entries
import TypedRecord.Text.Fold

/-!
# TypedRecord.Shape

Reading values that must have a certain shape.

A reader answers what it read or every reason for which it refuses the value, each with its place.
Parts are read independently of each other, so one refusal does not hide another.

Values are taken by what they mean: a flag may be written as a number or a word, a whole number as
text.
-/

namespace TypedRecord

/-- What keeps a value from being read: it is refused, or the rule that refuses it has a wording that
cannot be written, at which reading stops. -/
inductive Shape.Obstacle
  | refused (refusals : List Refusal)
  | unencodable (fault : Text.EncodingFault)
  deriving DecidableEq, Inhabited, Repr

/-- What was read, or what keeps it from being read. -/
abbrev Shaped (α : Type) : Type := Except Shape.Obstacle α

/-- What was read of a value that is looked at as a whole, or why it is refused. -/
abbrev Judged (α : Type) : Type := Except Refusal.Reason α

namespace Shape

variable {α β : Type}

/-- Refuses a value. -/
def refuse (v : Value) (reason : Refusal.Reason) : Shaped α :=
  .error (.refused [⟨[], reason, .of v⟩])

/-- What was judged of a value, as a reading of it. -/
def reading (v : Value) : Judged α → Shaped α
  | .ok a => .ok a
  | .error reason => refuse v reason

/-- A part, seen from the whole. -/
def at' (place : Place) (part : Shaped α) : Shaped α :=
  part.mapError fun
    | .refused refusals => .refused (refusals.map (Refusal.under place))
    | .unencodable fault => .unencodable fault

/-- Two parts, both of which must be in order. All refusals count, unless reading stops. -/
def both : Shaped α → Shaped β → Shaped (α × β)
  | .ok a, .ok b => .ok (a, b)
  | .ok _, .error obstacle => .error obstacle
  | .error (.unencodable fault), _ => .error (.unencodable fault)
  | .error (.refused rs), .ok _ => .error (.refused rs)
  | .error (.refused rs), .error (.refused rs') => .error (.refused (rs ++ rs'))
  | .error (.refused _), .error (.unencodable fault) => .error (.unencodable fault)

/-- Parts that must all be in order. -/
def all : List (Shaped α) → Shaped (List α)
  | [] => .ok []
  | part :: parts => (both part (all parts)).map fun (a, as) => a :: as

/-- Parts are in order exactly when each of them is. -/
theorem both_eq_ok_iff {a : Shaped α} {b : Shaped β} {x : α × β} :
    both a b = .ok x ↔ a = .ok x.1 ∧ b = .ok x.2 := by
  obtain ⟨x, y⟩ := x
  rcases a with (_ | _) | _ <;> rcases b with (_ | _) | _ <;> simp [both]

/-- A whole number in the range of machine words. -/
def isMachineInt (i : Int) : Bool := -9223372036854775808 ≤ i && i ≤ 9223372036854775807

/-- A whole floating-point number that becomes a machine word. Of the least word it is not certain
that nothing was rounded away, so that one is out of range. -/
def isMachineFloat (i : Int) : Bool := -9223372036854775808 < i && i ≤ 9223372036854775807

/-- The place of a key. Numbers are places of their own, other keys go by how they are shown. -/
def placeOf (k : Key) : Place :=
  match k with
  | .atom _ (.str s) => .name (Text.withUnitsReplaced s)
  | .atom _ (.bool b) => .index (if b then 1 else 0)
  | .atom _ (.int i) => if isMachineInt i then .index i else .name (Value.ofKey k).shownAnyway
  | k => .name (Value.ofKey k).shownAnyway

/-! ### Atoms -/

/-- The text that a value is, or that it encodes as bytes. -/
def textIn (v : Value) : Judged String :=
  match v, v.reportable? with
  | _, some s => .ok s
  | .atom _ (.bytes _), none | .buffer _ _, none => .error .undecodable
  | _, none => .error .notText

/-- Reads a text. It may be encoded as bytes. -/
def text (v : Value) : Shaped String := reading v (textIn v)

/-- Refuses a text that cannot be written as bytes; it spells nothing. -/
def spelled (read : String → Judged α) (s : String) : Judged α :=
  if Text.isEncodable s then read s else .error .undecodable

/-- The words for a flag that is set. -/
def onWords : List String := ["1", "on", "t", "true", "y", "yes"]

/-- The words for a flag that is not set. -/
def offWords : List String := ["0", "off", "f", "false", "n", "no"]

/-- The flag that a word stands for, in any case. -/
def flagWord (word : String) : Judged Bool :=
  if onWords.contains (Text.lower word) then .ok true
  else if offWords.contains (Text.lower word) then .ok false
  else .error .unreadableFlag

/-- The flag that a number stands for. Numbers that no machine word holds are no flags at all. -/
def flagNumber (i : Int) : Judged Bool :=
  if i = 0 then .ok false
  else if i = 1 then .ok true
  else .error (if isMachineInt i then .unreadableFlag else .notFlag)

/-- The flag that a value stands for. -/
def flagIn (v : Value) : Judged Bool :=
  match v with
  | .atom _ (.bool b) => .ok b
  | .atom _ (.int i) => flagNumber i
  | .atom _ (.float x) =>
    match x.toInt? with
    | some i => if isMachineFloat i then flagNumber i else .error .notFlag
    | none => .error .notFlag
  | .atom _ (.str s) => spelled flagWord s
  | .atom _ (.bytes data) =>
    match (Key.atom none (.bytes data)).reportable? with
    | some s => flagWord s
    | none => .error .unreadableFlag
  | _ => .error .notFlag

/-- Reads a flag. -/
def flag (v : Value) : Shaped Bool := reading v (flagIn v)

/-- Whether a number has a minus sign, and its text behind the sign. Behind a plus sign no minus sign
may stand. -/
def splitSign? : List Char → Option (Bool × List Char)
  | '-' :: rest => some (true, rest)
  | '+' :: '-' :: _ => none
  | '+' :: rest => some (false, rest)
  | s => some (false, s)

/-- What is left behind zeros and underscores: it begins with another digit, a minus sign, or the last
zero before a point. If nothing follows, the last of them is left. -/
def behindZeros? (last : Char) : List Char → Option (List Char)
  | [] => some [last]
  | c :: rest =>
    if c = '0' ∨ c = '_' then behindZeros? c rest
    else if c = '.' then some (last :: c :: rest)
    else if c.isDigit ∨ c = '-' then some (c :: rest)
    else none

/-- The text of a number without zeros in front. -/
def withoutZeros? : List Char → Option (List Char)
  | [] => none
  | c :: rest =>
    if c = '0' then behindZeros? c rest
    else if c.isDigit ∨ c = '-' then some (c :: rest)
    else none

/-- The text without a point and the zeros after it, of which there must be one. -/
def withoutZeroFraction (s : List Char) : List Char :=
  match s.dropWhile (· != '.') with
  | _ :: '0' :: zeros => if zeros.all (· == '0') then s.takeWhile (· != '.') else s
  | _ => s

/-- The text without the underscores that group its digits. They must not stand at the ends, and
never two together. -/
def withoutGroups (s : List Char) : List Char :=
  let ends := s.head? = some '_' ∨ s.getLast? = some '_'
  if ends ∨ (s.zip s.tail).contains ('_', '_') then s else s.filter (· != '_')

/-- The most characters that the digits of a number may have, its sign included. -/
def numberTextLimit : Nat := 4300

/-- The number of bare digits under a sign. The first of them is no zero unless it stands alone. -/
def bareDigits (negative : Bool) (ds : List Char) : Judged Int :=
  let size := (ds.takeWhile Char.isDigit).length + if negative then 1 else 0
  if ds.head? = some '0' ∧ ds ≠ ['0'] then .error .unreadableNumber
  else if numberTextLimit < size then .error .tooLarge
  else
    match readNat? 10 ds with
    | some n => .ok (signedInt negative n)
    | none => .error .unreadableNumber

/-- The number of bare digits behind the minus signs that are left: the one that was set apart and one
behind zeros, of which at most one may be there. -/
def bareNumber (negative : Bool) : List Char → Judged Int
  | '-' :: ds => if negative then .error .unreadableNumber else bareDigits true ds
  | ds => bareDigits negative ds

/-- The whole number written as text: surrounding blanks, a sign, zeros in front, groups and a fraction
of zeros are admitted. Zeros may also stand in front of a minus sign. -/
def numberText (s : String) : Judged Int :=
  let bare := (splitSign? (Text.trimNumber s.toList)).bind fun (negative, ds) =>
    (withoutZeros? ds).map fun ds => (negative, withoutGroups (withoutZeroFraction ds))
  match bare with
  | some (negative, digits) => bareNumber negative digits
  | none => .error .unreadableNumber

/-- The whole number that a value stands for. -/
def numberIn (v : Value) : Judged Int :=
  match v with
  | .atom _ (.bool b) => .ok (if b then 1 else 0)
  | .atom _ (.int i) => .ok i
  | .atom _ (.float x) =>
    match x with
    | .nan _ | .infinite _ => .error .notFinite
    | x =>
      match x.toInt? with
      | some i => if isMachineFloat i then .ok i else .error .tooLarge
      | none => .error .fractional
  | .atom _ (.str s) => spelled numberText s
  | .atom _ (.bytes data) =>
    match (Key.atom none (.bytes data)).reportable? with
    | some s => numberText s
    | none => .error .unreadableNumber
  | _ => .error .notNumber

/-- Reads a whole number. -/
def number (v : Value) : Shaped Int := reading v (numberIn v)

/-- Reads a whole number that must not be negative. -/
def count (v : Value) : Shaped Nat := do
  let i ← number v
  if i < 0 then refuse v .tooSmall else .ok i.toNat

/-- Reads one of several words. -/
def choice (ofWord : String → Option α) (v : Value) : Shaped α :=
  let read (s : String) : Judged α :=
    match ofWord s with
    | some a => .ok a
    | none => .error .notChoice
  reading v <| match v.text? with
  | some s => spelled read s
  | none => .error .notChoice

/-! ### Lists and mappings -/

/-- Reads a list. -/
def list (item : Value → Shaped α) (v : Value) : Shaped (List α) :=
  let read (vs : List Value) := all (vs.mapIdx fun i v => at' (.index i) (item v))
  match v with
  | .list _ vs | .tuple _ vs => read vs
  | .set ks => read (ks.map Value.ofKey)
  | v => refuse v .notList

/-- Reads a key that must be a text. -/
def name (k : Key) : Shaped String := at' (.name "[key]") (text (.ofKey k))

/-- Reads entries whose keys must be texts. Keys of one text are one key. -/
def named (item : α → Shaped β) (entries : Entries α) : Shaped (List (String × β)) :=
  (all (entries.map fun (k, v) => at' (placeOf k) (both (name k) (item v)))).map Named.ofList

/-- Reads a mapping whose keys are texts. -/
def mapping (item : Value → Shaped α) (v : Value) : Shaped (List (String × α)) :=
  match v.entries? with
  | some entries => named item entries
  | none => refuse v .notMapping

/-- Whether a key is a text that cannot be written as bytes. -/
def isUnencodable (k : Key) : Bool := k.reportable?.any fun s => !Text.isEncodable s

/-- The entries of a mapping with known members, whose names can be written as bytes. -/
def members (model : Model) (v : Value) : Shaped (Entries Value) :=
  match v.entries? with
  | some entries =>
    match entries.keys.find? isUnencodable with
    | some k => refuse (.ofKey k) .undecodable
    | none => .ok entries
  | none => refuse v (.notModel model)

/-- Reads a member of a mapping, which may be missing if it has a default. -/
def member (whole : Value) (entries : Entries Value) (name : String) (default : Option α)
    (read : Value → Shaped α) : Shaped α :=
  at' (.name name) <|
    match entries.find? (.str name), default with
    | some v, _ => read v
    | none, some a => .ok a
    | none, none => refuse whole .missing

/-- Refuses members that are not known. -/
def noOthers (entries : Entries Value) (known : List String) : Shaped Unit :=
  let judge (e : Key × Value) : Shaped Unit :=
    match e.1 with
    | .atom _ (.str s) => if known.contains s then .ok () else at' (.name s) (refuse e.2 .unknown)
    | k => at' (placeOf k) (refuse (.ofKey k) .badKey)
  (all (entries.map judge)).map fun _ => ()

/-- What was read of a value, if a rule admits it. A rule whose wording cannot be written stops the
reading. -/
def ensuring (rule : α → Option String) (v : Value) (read : Shaped α) : Shaped α := do
  let a ← read
  match rule a with
  | none => .ok a
  | some message =>
    match Text.encodingFault? message with
    | some fault => .error (.unencodable fault)
    | none => refuse v (.rule ("Value error, " ++ message))

end Shape

end TypedRecord
