import RiscvAssembler.Instruction
import RiscvAssembler.Literal

/-!
# The value of an immediate operand

A literal has its value, also as an offset. A label has its address, or its distance from the
instruction if the format is relative.
-/

namespace RiscvAssembler

open Text

/-- The addresses of labels, in order of definition. -/
abbrev SymbolTable := List (String × Int)

/-- The value that a label at `address` has for an instruction at `pc`. -/
def labelValue (format : Format) (address pc : Int) : Int :=
  if format.isRelative then address - pc else address

/-- The value of an immediate operand, not yet tested against its field. -/
def resolveImmediate (operand : String) (labels : SymbolTable) (pc : Int) (format : Format) :
    Except Fault Int :=
  let text := trim operand
  match parseImmediate text with
  | .ok n => .ok n
  | .error _ =>
    if isLabelName text then
      match labels.lookup text with
      | some address => .ok (labelValue format address pc)
      | none => .error (.undefinedLabel text)
    else .error (.malformedImmediate text)

end RiscvAssembler
