import RiscvAssembler.Fault

/-!
# Bit fields

Integers are unbounded; a field of a word holds the remainder of an integer by a power of two.

## Main definitions

* `place`, `slice`: the low bits of an integer moved up to a position, and the bits at a position.
* `signExtend`: the integer whose two's complement a field holds.
* `fieldWidth?`: the widths that a field can have.
* `checkSigned`, `checkUnsigned`, `checkEven`: the tests that an immediate passes before it is
  stored.
* `splitConstant`: an upper and a lower part that add up to a constant.
-/

namespace RiscvAssembler

/-- The low `width` bits of `n`, moved up to bit `low`. -/
def place (low width : Nat) (n : Int) : Int :=
  n % Int.pow 2 width * Int.pow 2 low

/-- The `width` bits of `n` from bit `low` on. -/
def slice (low width : Nat) (n : Int) : Int :=
  n / Int.pow 2 low % Int.pow 2 width

/-- Reads the low `bits` bits of `n` as two's complement. -/
def signExtend (n : Int) (bits : Nat) : Int :=
  n % Int.pow 2 (bits - 1) - place (bits - 1) 1 (slice (bits - 1) 1 n)

/-- The number of bits of a field, if there can be such a field: a sign takes up a bit. -/
def fieldWidth? (signed : Bool) (bits : Int) : Option Nat :=
  if (if signed then 1 else 0) ≤ bits then some bits.toNat else none

/-- The value lies between the bounds of a field of `bits` bits. -/
def checkRange (what : String) (value low high : Int) (bits : Nat) : Except Fault Unit :=
  if low ≤ value ∧ value ≤ high then .ok () else .error (.outOfRange what value low high bits)

/-- The value fits a two's complement field. -/
def checkSigned (what : String) (value : Int) (bits : Nat) : Except Fault Unit :=
  checkRange what value (-Int.pow 2 (bits - 1)) (Int.pow 2 (bits - 1) - 1) bits

/-- The value fits a field without a sign. -/
def checkUnsigned (what : String) (value : Int) (bits : Nat) : Except Fault Unit :=
  checkRange what value 0 (Int.pow 2 bits - 1) bits

/-- The value is even. -/
def checkEven (what : String) (value : Int) : Except Fault Unit :=
  if value % 2 = 0 then .ok () else .error (.odd what value)

/-- The upper twenty bits and the signed lower twelve bits of a constant. The upper part is rounded
to the nearest, so that the lower one fits its sign. -/
def splitConstant (value : Int) : Int × Int :=
  let upper := (value + 2048) / 4096
  (upper % 0x100000, value - upper * 4096)

end RiscvAssembler
