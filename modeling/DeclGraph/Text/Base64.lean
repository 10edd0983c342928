/-!
Bytes written in 64 characters, four for three bytes.

Other characters are passed over. Equals signs fill up the last group: two of them after two
characters and one after three end the text, and whatever follows is not read.
-/

namespace DeclGraph.Text.Base64

/-- The six bits that a character stands for. -/
def sextet? (c : Char) : Option Nat :=
  if 'A' ≤ c ∧ c ≤ 'Z' then some (c.toNat - 'A'.toNat)
  else if 'a' ≤ c ∧ c ≤ 'z' then some (c.toNat - 'a'.toNat + 26)
  else if '0' ≤ c ∧ c ≤ '9' then some (c.toNat - '0'.toNat + 52)
  else if c = '+' then some 62
  else if c = '/' then some 63
  else none

/-- A group that is being read: its sextets so far, and the equals signs since the last one. -/
structure Group where
  sextets : List Nat
  fillers : Nat

def Group.empty : Group := ⟨[], 0⟩

/-- The bytes of a group. Sextets that are left over count only as far as they fill bytes. -/
def Group.bytes (group : Group) : List UInt8 :=
  match group.sextets with
  | [a, b] => [(4 * a + b / 16).toUInt8]
  | [a, b, c] => [(4 * a + b / 16).toUInt8, (16 * (b % 16) + c / 4).toUInt8]
  | [a, b, c, d] =>
    [(4 * a + b / 16).toUInt8, (16 * (b % 16) + c / 4).toUInt8, (64 * (c % 4) + d).toUInt8]
  | _ => []

/-- The bytes of a text, which must not break off inside a group. -/
def decodeFrom (group : Group) : List Char → Option (List UInt8)
  | [] => if group.sextets.isEmpty then some [] else none
  | c :: cs =>
    if c = '=' then
      if group.sextets.length < 2 then decodeFrom group cs
      else if 4 ≤ group.sextets.length + group.fillers + 1 then some group.bytes
      else decodeFrom { group with fillers := group.fillers + 1 } cs
    else
      match sextet? c with
      | none => decodeFrom group cs
      | some sextet =>
        let group : Group := ⟨group.sextets ++ [sextet], 0⟩
        if group.sextets.length = 4 then (decodeFrom .empty cs).map (group.bytes ++ ·)
        else decodeFrom group cs

def decode (cs : List Char) : Option (List UInt8) := decodeFrom .empty cs

end DeclGraph.Text.Base64
