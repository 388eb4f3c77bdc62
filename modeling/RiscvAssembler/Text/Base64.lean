/-!
# Bytes in base 64

Four characters of an alphabet of sixty-four stand for three bytes. Characters outside the alphabet
are passed over. Equals signs that fill up a group of four end the text; any other is passed over.

## Main definitions

* `Base64.sextet?`: the six bits that a character of the alphabet stands for.
* `Base64.decode?`: the bytes that a text stands for.
-/

namespace RiscvAssembler.Text.Base64

/-- The six bits that a character of the alphabet stands for. -/
def sextet? (c : Char) : Option Nat :=
  if 'A' ≤ c ∧ c ≤ 'Z' then some (c.toNat - 'A'.toNat)
  else if 'a' ≤ c ∧ c ≤ 'z' then some (c.toNat - 'a'.toNat + 26)
  else if c.isDigit then some (c.toNat - '0'.toNat + 52)
  else if c = '+' then some 62
  else if c = '/' then some 63
  else none

/-- How much of a group of four characters has been read. -/
structure Group where
  /-- The number of characters of the alphabet. -/
  size : Nat := 0
  /-- The bits of the last of them that belong to the next byte. -/
  bits : Nat := 0
  /-- The number of equals signs since then. -/
  padding : Nat := 0

/-- The byte that six more bits complete, if they complete one, and the group after them. -/
def Group.add (g : Group) (sextet : Nat) : List UInt8 × Group :=
  match g.size with
  | 0 => ([], ⟨1, sextet, 0⟩)
  | 1 => ([UInt8.ofNat (g.bits * 4 + sextet / 16)], ⟨2, sextet % 16, 0⟩)
  | 2 => ([UInt8.ofNat (g.bits * 16 + sextet / 4)], ⟨3, sextet % 4, 0⟩)
  | _ => ([UInt8.ofNat (g.bits * 64 + sextet)], {})

/-- The bytes of the characters after a part of a group. -/
def decodeFrom? (g : Group) : List Char → Option (List UInt8)
  | [] => if g.size = 0 then some [] else none
  | c :: rest =>
    if c = '=' then
      if 2 ≤ g.size then
        if 4 ≤ g.size + g.padding + 1 then some []
        else decodeFrom? { g with padding := g.padding + 1 } rest
      else decodeFrom? g rest
    else
      match sextet? c with
      | none => decodeFrom? g rest
      | some sextet =>
        let (bytes, g) := g.add sextet
        (decodeFrom? g rest).map (bytes ++ ·)

/-- The bytes that a text stands for, unless it ends inside a group. -/
def decode? (text : List Char) : Option (List UInt8) :=
  decodeFrom? {} text

@[simp] theorem decode?_nil : decode? [] = some [] := rfl

theorem sextet?_lt {c : Char} {n : Nat} (h : sextet? c = some n) : n < 64 := by
  unfold sextet? at h
  simp only [Char.le_def, UInt32.le_iff_toNat_le, Char.isDigit, Char.toNat] at h
  grind

end RiscvAssembler.Text.Base64
