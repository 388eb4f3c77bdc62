/-!
# Surrogates

The code points `U+D800` to `U+DFFF` are no characters, but an escape in a text can name one. The
text then holds a stand-in for it, a character of a plane for private use.

## Main definitions

* `characterOf`: the character of a code point, or the stand-in of a surrogate.
* `surrogate?`: the surrogate that a stand-in is for.
* `joinSurrogates`: a text in which two surrogates that make up a character have become that
  character.
-/

namespace RiscvAssembler.Text

/-- The code point is no character. -/
def isSurrogate (code : Nat) : Bool :=
  0xD800 ≤ code && code ≤ 0xDFFF

/-- How far the stand-ins lie beyond the surrogates. -/
def standInDistance : Nat := 0xF0000

/-- The character of a code point, or the stand-in of a surrogate. -/
def characterOf (code : Nat) : Char :=
  if isSurrogate code then Char.ofNat (code + standInDistance) else Char.ofNat code

/-- The surrogate that a character stands in for. -/
def surrogate? (c : Char) : Option Nat :=
  let code := c.toNat - standInDistance
  if isSurrogate code then some code else none

/-- The character that a high and a low surrogate make up. -/
def pairedCharacter? (high low : Nat) : Option Char :=
  if high < 0xDC00 ∧ 0xDC00 ≤ low then
    some (Char.ofNat (0x10000 + (high - 0xD800) * 0x400 + (low - 0xDC00)))
  else none

/-- The text in which each pair of a high and a low surrogate has become a character. -/
def joinSurrogates : List Char → List Char
  | c :: d :: rest =>
    match (surrogate? c).bind fun high => (surrogate? d).bind (pairedCharacter? high) with
    | some paired => paired :: joinSurrogates rest
    | none => c :: joinSurrogates (d :: rest)
  | rest => rest

theorem surrogate?_characterOf {code : Nat} (h : isSurrogate code = true) :
    surrogate? (characterOf code) = some code := by
  have hc : (Char.ofNat (code + standInDistance)).toNat = code + standInDistance := by
    have h' : 0xD800 ≤ code ∧ code ≤ 0xDFFF := by simpa [isSurrogate] using h
    have hv : (code + standInDistance).isValidChar := by
      simp only [standInDistance, Nat.isValidChar]
      omega
    rw [Char.ofNat, dif_pos hv]
    rfl
  simp [surrogate?, characterOf, h, hc]

end RiscvAssembler.Text
