import RiscvAssembler.Text.Numeral
import RiscvAssembler.Yaml.Tag
import RiscvAssembler.Yaml.Timestamp

/-!
# Forms of plain text

Plain text stands for nothing, a truth value, a number, a time or a mark of mappings if it has the
form of one, and for itself otherwise. A line feed at the end does not count towards the form.

## Main definitions

* `isInteger`, `isReal`, `isTimestamp`: the forms of numbers and times.
* `tagOfPlain`: the tag that plain text has by its form.
-/

namespace RiscvAssembler.Yaml.Scalar

open Text

/-- The text without a sign at its start. -/
def unsigned : List Char → List Char
  | '-' :: rest => rest
  | '+' :: rest => rest
  | rest => rest

/-- A decimal digit or a low line. -/
def isDigitOrLine (c : Char) : Bool :=
  c.isDigit || c == '_'

/-- A digit in base `base` or a low line. -/
def isDigitOf (base : Nat) (c : Char) : Bool :=
  c == '_' || (digitValue? base c).isSome

/-- A decimal digit, and then digits and low lines. -/
def isDigits : List Char → Bool
  | [] => false
  | c :: rest => c.isDigit && rest.all isDigitOrLine

/-- The digits that a group after a colon has: one, or two from `00` to `59`. -/
def isGroup : List Char → Bool
  | [a] => a.isDigit
  | [a, b] => '0' ≤ a && a ≤ '5' && b.isDigit
  | _ => false

/-- Digits and at least one group after them, with colons between. -/
def isSixties (cs : List Char) : Bool :=
  match cs.splitOn ':' with
  | first :: group :: groups => isDigits first && (group :: groups).all isGroup
  | _ => false

/-- The form of an integer: after a sign, digits in base two, sixteen, eight or ten, or groups of
digits in base sixty. -/
def isInteger (cs : List Char) : Bool :=
  match unsigned cs with
  | '0' :: 'b' :: rest => !rest.isEmpty && rest.all (isDigitOf 2)
  | '0' :: 'x' :: rest => !rest.isEmpty && rest.all (isDigitOf 16)
  | '0' :: rest => rest.all (isDigitOf 8)
  | rest => isDigits rest || isSixties rest

/-- The form of an exponent at the end of a number: a letter, a sign and digits, or nothing. -/
def isExponent : List Char → Bool
  | [] => true
  | e :: sign :: digits =>
    (e == 'e' || e == 'E') && (sign == '-' || sign == '+') && !digits.isEmpty &&
      digits.all Char.isDigit
  | _ => false

/-- The form of a floating point number: digits with a decimal point and perhaps an exponent, groups
of digits in base sixty with a decimal point, or a word for infinity or for no number. -/
def isReal (cs : List Char) : Bool :=
  let rest := unsigned cs
  match rest with
  | '.' :: tail =>
    tail ∈ ["inf".toList, "Inf".toList, "INF".toList] ||
      (rest == cs && (tail ∈ ["nan".toList, "NaN".toList, "NAN".toList] ||
        (tail.head?.any Char.isDigit && isExponent (tail.dropWhile isDigitOrLine))))
  | _ =>
    let whole := rest.takeWhile (· != '.')
    match rest.dropWhile (· != '.') with
    | [] => false
    | _ :: tail =>
      (isDigits whole && isExponent (tail.dropWhile isDigitOrLine)) ||
        (isSixties whole && tail.all isDigitOrLine)

/-- The form of a time. A day alone is written with two digits each for month and day. -/
def isTimestamp (cs : List Char) : Bool :=
  match Timestamp.ofChars? cs with
  | none => false
  | some t => t.clock.isSome || cs.length == 10

/-- The words for truth. -/
def trueWords : List String :=
  ["yes", "Yes", "YES", "true", "True", "TRUE", "on", "On", "ON"]

/-- The words for falsehood. -/
def falseWords : List String :=
  ["no", "No", "NO", "false", "False", "FALSE", "off", "Off", "OFF"]

/-- The words for nothing. -/
def nullWords : List String :=
  ["~", "null", "Null", "NULL"]

/-- The indicators that stand for no value when they stand alone. -/
def loneIndicators : List String :=
  ["!", "&", "*"]

/-- The text without a line feed at its end. -/
def withoutFinalBreak (cs : List Char) : List Char :=
  if cs.getLast? == some '\n' then cs.dropLast else cs

/-- The tag that plain text has by its form. -/
def tagOfPlain (text : String) : Tag :=
  if text.isEmpty then .null
  else
    let cs := withoutFinalBreak text.toList
    let word := String.ofList cs
    if trueWords.contains word || falseWords.contains word then .bool
    else if isReal cs then .real
    else if isInteger cs then .int
    else if word == "<<" then .merge
    else if nullWords.contains word then .null
    else if isTimestamp cs then .timestamp
    else if word == "=" then .equals
    else if loneIndicators.contains word then .other
    else .str

end RiscvAssembler.Yaml.Scalar
