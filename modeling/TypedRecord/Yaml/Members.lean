import TypedRecord.Key

/-!
# TypedRecord.Yaml.Members

The order in which a set lists its members.

A set lists them by where they lie in a table, and a member lies as close as it can to the place that its
code names. Numbers that are equal have one code, so a member finds its place however it is written.
The codes of texts with something in them, and of dates, are nobody's business: sets that hold such
members list them as they are written.
-/

namespace TypedRecord.Yaml.Members

/-- The prime that codes of numbers are counted by. -/
def modulus : Nat := 1 <<< 61 - 1

/-- The code of a number of some size. No code is minus one. -/
def signed (negative : Bool) (n : Nat) : Int :=
  let code := if negative then -Int.ofNat n else Int.ofNat n
  if code = -1 then -2 else code

/-- The code of an atom, where atoms of its kind have a known one. Doubling sixty-one times changes no
code, so exponents count by their remainder. -/
def code? : Atom → Option Int
  | .nil => some 0x10A4F
  | .bool b => some (if b then 1 else 0)
  | .int i => some (signed (i < 0) (i.natAbs % modulus))
  | .float (.finite negative mantissa exponent) =>
    some (signed negative (mantissa <<< (exponent % 61).toNat % modulus))
  | .float (.infinite negative) => some (signed negative 314159)
  | .str "" | .bytes [] => some 0
  | _ => none

/-- The code of a member, as an unsigned word. -/
def word? : Key → Option Nat
  | .atom _ a => (code? a).map fun code => (code % Int.ofNat (1 <<< 64)).toNat
  | .tuple _ _ => none

/-- A table: slots, the number of which is a power of two, and how many of them are taken. A member lies
in its slot together with its code. -/
structure Table where
  slots : Array (Option (Nat × Key))
  taken : Nat := 0

namespace Table

/-- A table without members that has more slots than some number, and eight at least. -/
def above (n : Nat) : Table := { slots := .replicate (max 8 (1 <<< (n.log2 + 1))) none }

/-- Whether a slot is free. -/
def isFree (t : Table) (slot : Nat) : Bool := (t.slots.getD slot none).isNone

/-- The free slot for a code. The slot it names and nine neighbours behind it are tried, then those of
other slots, which the higher bits of the code choose. After those bits are used up every slot has its
turn, so the number of slots and thirteen more is fuel enough. -/
def slotFrom (t : Table) : Nat → Nat → Nat → Nat
  | 0, slot, _ => slot
  | fuel + 1, slot, bits =>
    let neighbours := if slot + 9 < t.slots.size then 9 else 0
    match (List.range' slot (neighbours + 1)).find? t.isFree with
    | some free => free
    | none =>
      let bits := bits / 32
      slotFrom t fuel ((5 * slot + 1 + bits) % t.slots.size) bits

/-- A table with one more member. -/
def put (t : Table) (member : Nat × Key) : Table :=
  let slot := t.slotFrom (t.slots.size + 13) (member.1 % t.slots.size) member.1
  ⟨t.slots.setIfInBounds slot (some member), t.taken + 1⟩

/-- The members of a table, slot by slot. -/
def members (t : Table) : List (Nat × Key) := t.slots.toList.filterMap id

/-- A table that has got one more member; if it gets crowded, its members move to a larger one. -/
def add (t : Table) (member : Nat × Key) : Table :=
  let t := t.put member
  if 5 * t.taken < 3 * (t.slots.size - 1) then t
  else t.members.foldl put (above (t.taken * if 50000 < t.taken then 2 else 4))

end Table

/-- The members of a set in the order in which it lists them. -/
def listed (keys : List Key) : List Key :=
  match keys.mapM fun k => (word? k).map fun word => (word, k) with
  | none => keys
  | some members =>
    let n := members.length
    let start := Table.above (if 5 * n < 21 then 0 else 2 * n)
    (members.foldl Table.add start).members.map Prod.snd

end TypedRecord.Yaml.Members
