/-!
# TypedRecord.Calendar

Calendar dates and moments, as documents may hold them.

Dates follow the Gregorian calendar extended to the years 1 to 9999. A moment is a date with a time
of day to the microsecond and, possibly, a distance from universal time.
-/

namespace TypedRecord

/-- A calendar date. -/
structure Date where
  year : Nat
  month : Nat
  day : Nat
  deriving DecidableEq, Inhabited, Repr

/-- A date with a time of day; `offset` is the distance from universal time in minutes. -/
structure Moment where
  date : Date
  hour : Nat
  minute : Nat
  second : Nat
  micro : Nat
  offset : Option Int
  deriving DecidableEq, Inhabited, Repr

/-- What keeps a date or a moment from existing. -/
inductive CalendarFault
  | year (n : Nat)
  | month
  | day
  | hour
  | minute
  | second
  | offset (minutes : Int)
  deriving DecidableEq, Inhabited, Repr

/-- A span of time as it is previewed: whole days, the last one begun if it is negative, and the
seconds behind them. -/
def spanPreview (seconds : Int) : String :=
  let days := seconds / 86400
  let rest := seconds % 86400
  let parts := (if days = 0 then [] else [s!"days={days}"]) ++
    (if rest = 0 then [] else [s!"seconds={rest}"])
  "datetime.timedelta(" ++ (if parts = [] then "0" else ", ".intercalate parts) ++ ")"

/-- The wording of a fault. -/
def CalendarFault.message : CalendarFault → String
  | year n => s!"year {n} is out of range"
  | month => "month must be in 1..12"
  | day => "day is out of range for month"
  | hour => "hour must be in 0..23"
  | minute => "minute must be in 0..59"
  | second => "second must be in 0..59"
  | offset minutes =>
    "offset must be a timedelta strictly between -timedelta(hours=24) and timedelta(hours=24), not " ++
      spanPreview (minutes * 60) ++ "."

/-- A number in decimal, padded with zeros to `width` digits. -/
def padded (width n : Nat) : String :=
  let ds := toString n
  String.ofList (List.replicate (width - ds.length) '0') ++ ds

namespace Date

/-- Leap years: every fourth, but of the centuries only every fourth. -/
def isLeap (year : Nat) : Bool := year % 4 = 0 ∧ (year % 100 ≠ 0 ∨ year % 400 = 0)

/-- The length of a month. -/
def daysIn (year month : Nat) : Nat :=
  if month = 2 then (if isLeap year then 29 else 28)
  else if month = 4 ∨ month = 6 ∨ month = 9 ∨ month = 11 then 30
  else 31

/-- What keeps a date from existing, if anything does. -/
def fault? (d : Date) : Option CalendarFault :=
  if d.year < 1 ∨ 9999 < d.year then some (.year d.year)
  else if d.month < 1 ∨ 12 < d.month then some .month
  else if d.day < 1 ∨ daysIn d.year d.month < d.day then some .day
  else none

/-- The date before a date. -/
def previous (d : Date) : Date :=
  if 1 < d.day then { d with day := d.day - 1 }
  else if 1 < d.month then ⟨d.year, d.month - 1, daysIn d.year (d.month - 1)⟩
  else ⟨d.year - 1, 12, 31⟩

/-- The date after a date. -/
def next (d : Date) : Date :=
  if d.day < daysIn d.year d.month then { d with day := d.day + 1 }
  else if d.month < 12 then ⟨d.year, d.month + 1, 1⟩
  else ⟨d.year + 1, 1, 1⟩

/-- Year, month and day, joined by hyphens. -/
def text (d : Date) : String :=
  padded 4 d.year ++ "-" ++ padded 2 d.month ++ "-" ++ padded 2 d.day

/-- The date as it is previewed. -/
def preview (d : Date) : String :=
  s!"datetime.date({d.year}, {d.month}, {d.day})"

end Date

namespace Moment

/-- What keeps a moment from existing, if anything does: its offset, which must be less than a day,
its date, or its time of day. -/
def fault? (m : Moment) : Option CalendarFault :=
  match m.offset.filter fun offset => 1440 ≤ offset.natAbs with
  | some offset => some (.offset offset)
  | none =>
    m.date.fault?.or <|
      if 24 ≤ m.hour then some .hour
      else if 60 ≤ m.minute then some .minute
      else if 60 ≤ m.second then some .second
      else none

/-- The same instant in universal time. A moment without an offset is none. -/
def universal (m : Moment) : Moment :=
  match m.offset with
  | none => m
  | some offset =>
    if offset = 0 then m
    else
      let minutes : Int := Int.ofNat (m.hour * 60 + m.minute) - offset
      let day := if minutes < 0 then m.date.previous else if 1440 ≤ minutes then m.date.next else m.date
      let minutes := (minutes % 1440).toNat
      { m with date := day, hour := minutes / 60, minute := minutes % 60, offset := some 0 }

/-- The offset from universal time, with its sign. -/
def offsetText : Option Int → String
  | none => ""
  | some offset =>
    (if offset < 0 then "-" else "+") ++ padded 2 (offset.natAbs / 60) ++ ":" ++
      padded 2 (offset.natAbs % 60)

/-- The moment with `joint` between its date and its time. -/
def textWith (joint : String) (m : Moment) : String :=
  m.date.text ++ joint ++ padded 2 m.hour ++ ":" ++ padded 2 m.minute ++ ":" ++
    padded 2 m.second ++ (if m.micro = 0 then "" else "." ++ padded 6 m.micro) ++
    offsetText m.offset

/-- The zone of a preview. -/
def zonePreview (offset : Int) : String :=
  if offset = 0 then "datetime.timezone.utc"
  else "datetime.timezone(" ++ spanPreview (offset * 60) ++ ")"

/-- The moment as it is previewed: trailing zero seconds and microseconds are left out. -/
def preview (m : Moment) : String :=
  let head := s!"datetime.datetime({m.date.year}, {m.date.month}, {m.date.day}, {m.hour}, {m.minute}"
  let seconds :=
    if m.micro ≠ 0 then s!", {m.second}, {m.micro}"
    else if m.second ≠ 0 then s!", {m.second}"
    else ""
  let zone := match m.offset with
    | none => ""
    | some offset => ", tzinfo=" ++ zonePreview offset
  head ++ seconds ++ zone ++ ")"

end Moment

end TypedRecord
