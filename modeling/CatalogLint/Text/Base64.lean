/-
Bytes as text in base 64: four characters of six bits each stand for three bytes. `decode` passes over all characters
outside the alphabet. Equals signs end a text whose last group is not full, and a group that is left open is a fault.
-/
namespace CatalogLint.Text.Base64

/-- the six bits of a character -/
def sextet? (c : Char) : Option Nat :=
  if 'A' ≤ c && c ≤ 'Z' then some (c.toNat - 'A'.toNat)
  else if 'a' ≤ c && c ≤ 'z' then some (c.toNat - 'a'.toNat + 26)
  else if '0' ≤ c && c ≤ '9' then some (c.toNat - '0'.toNat + 52)
  else if c = '+' then some 62
  else if c = '/' then some 63
  else none

/-- a group of characters that is being read -/
structure Group where
  /-- how many characters of it have been read -/
  count : Nat
  /-- their bits that belong to no byte yet -/
  bits : Nat
  /-- the equals signs since the last of them -/
  signs : Nat

namespace Group

def start : Group := ⟨0, 0, 0⟩

/-- the group after a further character, and the byte that is complete with it -/
def next (g : Group) (sextet : Nat) : Group × Option UInt8 :=
  let bits := g.bits * 64 + sextet
  if g.count = 0 then (⟨1, bits, 0⟩, none)
  else if g.count = 1 then (⟨2, bits % 16, 0⟩, some (UInt8.ofNat (bits / 16)))
  else if g.count = 2 then (⟨3, bits % 4, 0⟩, some (UInt8.ofNat (bits / 4)))
  else (start, some (UInt8.ofNat bits))

/-- whether one more equals sign ends the text -/
def isEnded (g : Group) : Bool := 2 ≤ g.count && 4 ≤ g.count + g.signs + 1

end Group

/-- reads characters; `out` holds the bytes so far, backwards -/
def decodeFrom (out : List UInt8) (g : Group) : List Char → Option (List UInt8)
  | [] => if g.count = 0 then some out.reverse else none
  | c :: rest =>
    if c = '=' then
      if g.isEnded then some out.reverse
      else decodeFrom out { g with signs := if 2 ≤ g.count then g.signs + 1 else g.signs } rest
    else
      match sextet? c with
      | none => decodeFrom out g rest
      | some s => let (g, byte) := g.next s; decodeFrom (byte.toList ++ out) g rest

/-- the bytes that a text stands for -/
def decode (cs : List Char) : Option (List UInt8) := decodeFrom [] .start cs

end CatalogLint.Text.Base64
