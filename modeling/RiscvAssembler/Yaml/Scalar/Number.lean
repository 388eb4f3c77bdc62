import RiscvAssembler.Text.Blank
import RiscvAssembler.Text.Lowercase
import RiscvAssembler.Text.WordCharacter
import RiscvAssembler.Yaml.Problem
import RiscvAssembler.Yaml.Real

/-!
# Numbers under a tag

What the text of a number amounts to. A tag may put any text where a number should be, so more is
read here than plain text can hold: blanks around a number, digits of every script, a second sign.

## Main definitions

* `integerIn?`, `real?`: the numbers that texts in a fixed base denote.
* `integer`, `real`: the number that a text under a tag denotes, in the base that it announces.
-/

namespace RiscvAssembler.Yaml.Scalar

open Text

/-! ### Characters -/

/-- The ASCII form of a character in a number: of a digit of any script its digit, of a blank a
space, and of any other a character that is in no number. -/
def asciiForm (c : Char) : Char :=
  if c.toNat < 0x7F then c
  else if isBlank c then ' '
  else
    match decimalDigitValue? c with
    | some n => Char.ofNat ('0'.toNat + n)
    | none => '?'

/-- A space, a tab or a character that ends a line or a page. -/
def isNumberSpace (c : Char) : Bool :=
  c == ' ' || (0x09 ≤ c.toNat && c.toNat ≤ 0x0D)

/-- The ASCII form of a number without the blanks at its ends. -/
def numberChars (cs : List Char) : List Char :=
  (((cs.map asciiForm).dropWhile isNumberSpace).reverse.dropWhile isNumberSpace).reverse

/-- The characters other than low lines, which digits may hold to group them. -/
def withoutLines (cs : List Char) : List Char :=
  cs.filter (· != '_')

/-- Splits off a sign. -/
def splitSign : List Char → Bool × List Char
  | '-' :: rest => (true, rest)
  | '+' :: rest => (false, rest)
  | rest => (false, rest)

/-- The integer with a magnitude and a sign. -/
def withSign (negative : Bool) (n : Int) : Int :=
  if negative then -n else n

/-! ### Integers -/

/-- The letter that may stand after a zero to announce a base. -/
def markerOf? : Nat → Option Char
  | 2 => some 'b'
  | 8 => some 'o'
  | 16 => some 'x'
  | _ => none

/-- The digits after a marker that repeats the base. -/
def afterMarker (base : Nat) : List Char → List Char
  | '0' :: c :: rest => if markerOf? base == some c.toLower then rest else '0' :: c :: rest
  | cs => cs

/-- The integer that a text denotes in base `base`. -/
def integerIn? (base : Nat) (cs : List Char) : Option Int :=
  let (negative, rest) := splitSign (numberChars cs)
  (digitsValue? base (afterMarker base rest)).map fun n => withSign negative n

/-- The integer that a text denotes in base `base`, or the problem that it denotes none. -/
def integerIn (base : Nat) (cs : List Char) : Except Problem Int :=
  match integerIn? base cs with
  | some n => .ok n
  | none => .error (.notInteger base (String.ofList cs))

/-- The integer of a text without its sign: the start or a colon announces the base. -/
def unsignedInteger : List Char → Except Problem Int
  | [] => .error .emptyNumber
  | '0' :: 'b' :: rest => integerIn 2 rest
  | '0' :: 'x' :: rest => integerIn 16 rest
  | '0' :: rest => if rest.isEmpty then .ok 0 else integerIn 8 ('0' :: rest)
  | cs =>
    if cs.contains ':' then do
      let groups ← (cs.splitOn ':').mapM (integerIn 10)
      pure (groups.foldl (fun acc n => 60 * acc + n) 0)
    else integerIn 10 cs

/-- The integer that a text under a tag denotes. -/
def integer (text : String) : Except Problem Int := do
  let (negative, rest) := splitSign (withoutLines text.toList)
  let n ← unsignedInteger rest
  pure (withSign negative n)

/-! ### Floating point numbers -/

/-- The exponent at the end of a number: a letter, perhaps a sign, and digits; or nothing. -/
def exponent? : List Char → Option Int
  | [] => some 0
  | 'e' :: rest =>
    let (negative, digits) := splitSign rest
    (digitsValue? 10 digits).map fun n => withSign negative n
  | _ => none

/-- The number that digits with a decimal point and an exponent denote. -/
def decimalReal? (negative : Bool) (cs : List Char) : Option Real :=
  let whole := cs.takeWhile Char.isDigit
  let (fraction, rest) :=
    match cs.dropWhile Char.isDigit with
    | '.' :: tail => (tail.takeWhile Char.isDigit, tail.dropWhile Char.isDigit)
    | tail => ([], tail)
  match digitsValue? 10 (whole ++ fraction), exponent? rest with
  | some n, some e => some (Real.ofDecimal negative n (e - fraction.length))
  | _, _ => none

/-- The floating point number that a text in lower case denotes. -/
def real? (cs : List Char) : Option Real :=
  let (negative, rest) := splitSign (numberChars cs)
  if rest = "inf".toList ∨ rest = "infinity".toList then some (.infinite negative)
  else if rest = "nan".toList then some .notANumber
  else decimalReal? negative rest

/-- The floating point number that a text denotes, or the problem that it denotes none. -/
def realOf (cs : List Char) : Except Problem Real :=
  match real? cs with
  | some x => .ok x
  | none => .error (.notReal (String.ofList cs))

/-- Adds up places in base sixty, the last one first; `weight` is that of the first given. -/
def addPlaces (weight : Nat) (sum : Real) : List Real → Except Problem Real
  | [] => .ok sum
  | digit :: digits =>
    match Real.ofNat weight with
    | .infinite _ => .error .tooManyPlaces
    | w => addPlaces (weight * 60) (sum.add (digit.mul w)) digits

/-- The floating point number of a text in lower case without its sign. -/
def unsignedReal (cs : List Char) : Except Problem Real :=
  if cs = ".inf".toList then .ok (.infinite false)
  else if cs = ".nan".toList then .ok .notANumber
  else if cs.contains ':' then do
    let places ← (cs.splitOn ':').mapM realOf
    addPlaces 1 (Real.ofNat 0) places.reverse
  else realOf cs

/-- The floating point number that a text under a tag denotes. -/
def real (text : String) : Except Problem Real := do
  let cs := (lowercase (String.ofList (withoutLines text.toList))).toList
  if cs.isEmpty then .error .emptyNumber
  else
    let (negative, rest) := splitSign cs
    let x ← unsignedReal rest
    pure (if negative then x.neg else x)

end RiscvAssembler.Yaml.Scalar
