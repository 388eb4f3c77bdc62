import RiscvAssembler.Text.Numeral

/-!
# Binary floating point numbers

Numbers with at most fifty-three significant bits, as exact pairs of a mantissa and an exponent. A
ratio is rounded to the nearest of them; one is written with the fewest digits that read back.

## Main definitions

* `Real.ofRatio`: rounding, with a tie going to the even mantissa.
* `Real.add`, `Real.mul`: the exact result, rounded.
* `Real.shortest`: the fewest digits that read back, and where their decimal point stands.
* `Real.text`: positional from `0.0001` up to sixteen digits, with an exponent elsewhere.
-/

namespace RiscvAssembler.Yaml

open Text

/-- A floating point number. A finite one is `mantissa * 2 ^ exponent`; its mantissa is odd, or it
is zero and so is its exponent, so that equal numbers of one sign have one form. -/
inductive Real
  | finite (negative : Bool) (mantissa : Nat) (exponent : Int)
  | infinite (negative : Bool)
  | notANumber
  deriving DecidableEq, Repr

namespace Real

/-! ### Rounding -/

/-- `numerator / denominator` rounded to an integer, a tie going to the even one. -/
def roundDiv (numerator denominator : Nat) : Nat :=
  let low := numerator / denominator
  let twice := 2 * (numerator % denominator)
  if twice < denominator ∨ (twice = denominator ∧ low % 2 = 0) then low else low + 1

/-- `n * base ^ e` as a numerator and a denominator. -/
def scaled (base n : Nat) (e : Int) : Nat × Nat :=
  if 0 ≤ e then (n * base.pow e.toNat, 1) else (n, base.pow (-e).toNat)

/-- Halves an even mantissa, at most `limit` times. -/
def reduce : Nat → Bool → Nat → Int → Real
  | 0, negative, m, e => finite negative m e
  | limit + 1, negative, m, e =>
    if m % 2 = 0 then reduce limit negative (m / 2) (e + 1) else finite negative m e

/-- The floating point number nearest to `numerator / denominator`. -/
def ofRatio (negative : Bool) (numerator denominator : Nat) : Real :=
  if numerator = 0 then finite negative 0 0
  else
    let b : Int := (numerator.log2 : Int) - denominator.log2
    let (p, q) := scaled 2 denominator b
    let top := if p ≤ numerator * q then b else b - 1
    let e := max (top - 52) (-1074)
    let (p, q) := scaled 2 numerator (-e)
    let m := roundDiv p (q * denominator)
    if 971 < e ∨ (e = 971 ∧ 0x20000000000000 ≤ m) then infinite negative
    else if m = 0 then finite negative 0 0
    else reduce 53 negative m e

/-- The floating point number nearest to `digits * 10 ^ e`. From `10 ^ 309` on and below `10 ^ -324`
the number of digits decides. -/
def ofDecimal (negative : Bool) (digits : Nat) (e : Int) : Real :=
  let point := (Nat.toDigits 10 digits).length + e
  if digits = 0 ∨ point ≤ -324 then finite negative 0 0
  else if 310 ≤ point then infinite negative
  else
    let (p, q) := scaled 10 digits e
    ofRatio negative p q

/-- The floating point number nearest to a natural number. -/
def ofNat (n : Nat) : Real :=
  ofRatio false n 1

/-! ### Arithmetic -/

/-- The number with the other sign. -/
def neg : Real → Real
  | finite negative m e => finite (!negative) m e
  | infinite negative => infinite (!negative)
  | notANumber => notANumber

/-- The mantissa with its sign, in units of `2 ^ unit`. -/
def inUnits (unit : Int) (negative : Bool) (m : Nat) (e : Int) : Int :=
  let n : Int := m * Int.pow 2 (e - unit).toNat
  if negative then -n else n

/-- The sum. Two zeros add up to a negative one if both are negative, opposite numbers to a positive
one, and opposite infinities to no number. -/
def add : Real → Real → Real
  | finite s m e, finite t n f =>
    if m = 0 ∧ n = 0 then finite (s && t) 0 0
    else
      let unit := min e f
      let sum := inUnits unit s m e + inUnits unit t n f
      let (p, q) := scaled 2 sum.natAbs unit
      ofRatio (sum < 0) p q
  | infinite s, infinite t => if s = t then infinite s else notANumber
  | infinite s, finite .. | finite .., infinite s => infinite s
  | notANumber, _ | _, notANumber => notANumber

/-- The product. Zero times infinity is no number. -/
def mul : Real → Real → Real
  | finite s m e, finite t n f =>
    let (p, q) := scaled 2 (m * n) (e + f)
    ofRatio (s != t) p q
  | infinite s, infinite t => infinite (s != t)
  | infinite s, finite t m _ | finite t m _, infinite s =>
    if m = 0 then notANumber else infinite (s != t)
  | notANumber, _ | _, notANumber => notANumber

@[simp] theorem neg_neg (x : Real) : x.neg.neg = x := by
  cases x <;> simp [neg]

@[simp] theorem add_notANumber (x : Real) : x.add notANumber = notANumber := by
  cases x <;> rfl

@[simp] theorem mul_notANumber (x : Real) : x.mul notANumber = notANumber := by
  cases x <;> rfl

/-! ### Writing -/

/-- The number of decimal digits of `numerator / denominator` before the point; zero or less if it
is below one. -/
def decimalPoint (numerator denominator : Nat) : Int :=
  let guess : Int :=
    ((Nat.toDigits 10 numerator).length : Int) - (Nat.toDigits 10 denominator).length
  let (p, q) := scaled 10 denominator guess
  if p ≤ numerator * q then guess + 1 else guess

/-- Of the two neighbours of a positive number among the decimals with `count` digits, those that
read back, the nearer one first. -/
def candidates (mantissa : Nat) (exponent : Int) (count : Nat) : List (Nat × Int) :=
  let (numerator, denominator) := scaled 2 mantissa exponent
  let e := decimalPoint numerator denominator - count
  let (p, q) := scaled 10 numerator (-e)
  let low := p / (q * denominator)
  let near := roundDiv p (q * denominator)
  let far := if near = low then low + 1 else low
  [(near, e), (far, e)].filter fun (d, e) => ofDecimal false d e = finite false mantissa exponent

/-- The fewest digits that read back as a positive number, and its number of digits before the
point. -/
def shortest (mantissa : Nat) (exponent : Int) : List Char × Int :=
  match ((List.range 17).flatMap fun i => candidates mantissa exponent (i + 1)).head? with
  | none => (['0'], 1)
  | some (d, e) =>
    let digits := Nat.toDigits 10 d
    ((digits.reverse.dropWhile (· == '0')).reverse, digits.length + e)

/-- A decimal exponent: its sign and at least two digits. -/
def exponentText (e : Int) : List Char :=
  let digits := Nat.toDigits 10 e.natAbs
  (if e < 0 then '-' else '+') :: List.replicate (2 - digits.length) '0' ++ digits

/-- Digits with `point` of them before the decimal point. -/
def layOut (digits : List Char) (point : Int) : List Char :=
  if point ≤ -4 ∨ 16 < point then
    let fraction := digits.drop 1
    digits.take 1 ++ (if fraction.isEmpty then [] else '.' :: fraction) ++
      'e' :: exponentText (point - 1)
  else if point ≤ 0 then
    '0' :: '.' :: List.replicate (-point).toNat '0' ++ digits
  else
    let n := point.toNat
    let whole := digits.take n ++ List.replicate (n - digits.length) '0'
    let fraction := digits.drop n
    whole ++ '.' :: (if fraction.isEmpty then ['0'] else fraction)

/-- The number as messages show it. -/
def text : Real → String
  | notANumber => "nan"
  | infinite negative => if negative then "-inf" else "inf"
  | finite negative m e =>
    let (digits, point) := if m = 0 then (['0'], 1) else shortest m e
    String.ofList ((if negative then ['-'] else []) ++ layOut digits point)

/-- The integer that the number equals, if there is one. -/
def toInt? : Real → Option Int
  | finite negative m e =>
    if m = 0 then some 0
    else if 0 ≤ e then
      let n : Int := m * Int.pow 2 e.toNat
      some (if negative then -n else n)
    else none
  | _ => none

end Real

end RiscvAssembler.Yaml
