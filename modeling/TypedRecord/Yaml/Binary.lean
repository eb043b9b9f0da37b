/-!
# TypedRecord.Yaml.Binary

Byte strings written in ASCII, six bits to a character.

Characters that have no value are skipped. A byte string ends at an equals sign that completes a
group of four characters; without one, the last group has to be complete.
-/

namespace TypedRecord.Yaml

/-- The six bits of a character. -/
def sextet? (c : Char) : Option Nat :=
  if 'A' ≤ c ∧ c ≤ 'Z' then some (c.toNat - 'A'.toNat)
  else if 'a' ≤ c ∧ c ≤ 'z' then some (c.toNat - 'a'.toNat + 26)
  else if '0' ≤ c ∧ c ≤ '9' then some (c.toNat - '0'.toNat + 52)
  else if c = '+' then some 62
  else if c = '/' then some 63
  else none

/-- Decodes the characters of a byte string. `group` holds the characters of the group that is not
complete yet, last first, and `pads` counts the equals signs since the last of them. -/
def decodeSextets (group : List Nat) (pads : Nat) : List Char → Option (List UInt8)
  | [] => if group = [] then some [] else none
  | c :: rest =>
    if c = '=' then
      if 2 ≤ group.length then
        if 4 ≤ group.length + pads + 1 then some [] else decodeSextets group (pads + 1) rest
      else decodeSextets group pads rest
    else
      match sextet? c, group with
      | none, _ => decodeSextets group pads rest
      | some d, [a] =>
        (decodeSextets [d, a] 0 rest).map (UInt8.ofNat (a * 4 + d / 16) :: ·)
      | some d, [b, a] =>
        (decodeSextets [d, b, a] 0 rest).map (UInt8.ofNat (b % 16 * 16 + d / 4) :: ·)
      | some d, [b, _, _] =>
        (decodeSextets [] 0 rest).map (UInt8.ofNat (b % 4 * 64 + d) :: ·)
      | some d, _ => decodeSextets [d] 0 rest

/-- The byte string that a text spells. -/
def decodeBinary? (text : String) : Option (List UInt8) :=
  if text.toList.all fun c => c.toNat < 128 then decodeSextets [] 0 text.toList else none

end TypedRecord.Yaml
