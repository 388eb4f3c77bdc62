/-!
# Numerals

Integers written in a base, with a sign in front of a negative one, and zero-filled to a width.

## Main definitions

* `digitValue?`, `digitsValue?`: the value of a digit, and of a run of digits, in a base.
* `numeral`: the digits of an integer in a base, after its sign.
* `decimal`, `hexLower`, `hexUpper`: the forms that messages and listings use.
-/

namespace RiscvAssembler.Text

/-- The value of a digit below `base`, letters of either case counting from ten. -/
def digitValue? (base : Nat) (c : Char) : Option Nat :=
  let value :=
    if c.isDigit then some (c.toNat - '0'.toNat)
    else if 'a' ≤ c ∧ c ≤ 'f' then some (c.toNat - 'a'.toNat + 10)
    else if 'A' ≤ c ∧ c ≤ 'F' then some (c.toNat - 'A'.toNat + 10)
    else none
  value.filter (· < base)

/-- The value of a run of digits read after digits worth `acc`. -/
def digitsValueFrom (base acc : Nat) : List Char → Option Nat
  | [] => some acc
  | c :: cs => (digitValue? base c).bind fun d => digitsValueFrom base (acc * base + d) cs

/-- The value of a non-empty run of digits. -/
def digitsValue? (base : Nat) : List Char → Option Nat
  | [] => none
  | cs => digitsValueFrom base 0 cs

/-- The sign of a negative number. -/
def sign (n : Int) : List Char :=
  if n < 0 then ['-'] else []

/-- The digits of `n` in `base` with lower-case letters, after its sign. -/
def numeral (base : Nat) (n : Int) : List Char :=
  sign n ++ Nat.toDigits base n.natAbs

/-- `n` in base ten. -/
def decimal (n : Int) : String :=
  String.ofList (numeral 10 n)

/-- The digits of `n` in base sixteen, zero-filled so that sign and digits take `width` places. -/
def hexChars (width : Nat) (n : Int) : List Char :=
  let digits := Nat.toDigits 16 n.natAbs
  sign n ++ List.replicate (width - (sign n).length - digits.length) '0' ++ digits

/-- `n` in base sixteen with lower-case letters, zero-filled to `width`. -/
def hexLower (width : Nat) (n : Int) : String :=
  String.ofList (hexChars width n)

/-- `n` in base sixteen with capitals, zero-filled to `width`. -/
def hexUpper (width : Nat) (n : Int) : String :=
  String.ofList ((hexChars width n).map Char.toUpper)

/-- The text followed by blanks up to `width` characters. -/
def padRight (width : Nat) (s : String) : String :=
  s ++ String.ofList (List.replicate (width - s.length) ' ')

end RiscvAssembler.Text
