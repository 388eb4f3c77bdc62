import RiscvAssembler.Fault
import RiscvAssembler.Text.WordCharacter

/-!
# Immediate operands as written

An immediate operand is an integer literal or a label name. A literal is an optional sign and then
digits: decimal, or after `0x`, `0b` or `0o` (either case) in base sixteen, two or eight.

## Main definitions

* `Literal.value?`: the integer that trimmed text denotes, if it is a literal.
* `parseImmediate`, `isLiteral`: the same with blanks allowed at both ends, and with the fault.
* `isLabelName`: the shape of a name that an operand may refer to.
-/

namespace RiscvAssembler

open Text

namespace Literal

/-- The base that the second character of a literal starting with zero announces. -/
def announcedBase? : Char → Option Nat
  | 'x' | 'X' => some 16
  | 'b' | 'B' => some 2
  | 'o' | 'O' => some 8
  | _ => none

/-- The value of a literal without its sign. -/
def magnitude? : List Char → Option Nat
  | '0' :: marker :: digits =>
    match announcedBase? marker with
    | some base => digitsValue? base digits
    | none => digitsValue? 10 ('0' :: marker :: digits)
  | digits => digitsValue? 10 digits

/-- The value of a literal. -/
def value? : List Char → Option Int
  | '-' :: rest => (magnitude? rest).map fun n => -n
  | '+' :: rest => (magnitude? rest).map fun n => n
  | rest => (magnitude? rest).map fun n => n

end Literal

/-- The integer that an immediate operand denotes, blanks around it ignored. -/
def parseImmediate (text : String) : Except Fault Int :=
  match trimChars text.toList with
  | [] => .error .emptyImmediate
  | cs =>
    match Literal.value? cs with
    | some n => .ok n
    | none => .error (.malformedImmediate (trim text))

/-- The operand is an integer literal. -/
def isLiteral (text : String) : Bool :=
  (parseImmediate text).isOk

/-- An ASCII letter, a low line, a full stop or a dollar sign. -/
def isLabelStart (c : Char) : Bool :=
  c.isAlpha || c == '_' || c == '.' || c == '$'

/-- A word character, a full stop or a dollar sign. -/
def isLabelCharacter (c : Char) : Bool :=
  isWordCharacter c || c == '.' || c == '$'

/-- The shape of a label name in an operand. -/
def isLabelName (text : String) : Bool :=
  match text.toList with
  | [] => false
  | c :: cs => isLabelStart c && cs.all isLabelCharacter

end RiscvAssembler
