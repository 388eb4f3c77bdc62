import RiscvAssembler.Instruction
import RiscvAssembler.Register

/-!
# Where operands stand

The position of each operand among the tokens of a base instruction. Loads and stores write the
immediate before the address register, and the register jump is written either way.
-/

namespace RiscvAssembler

/-- The positions of the operands among the tokens of an instruction, the mnemonic being at zero. -/
structure OperandLayout where
  rd : Option Nat := none
  rs1 : Option Nat := none
  rs2 : Option Nat := none
  imm : Option Nat := none
  deriving DecidableEq, Repr

namespace OperandLayout

/-- Destination, source and immediate. -/
def arithmetic : OperandLayout := { rd := some 1, rs1 := some 2, imm := some 3 }

/-- Destination, offset and address register. -/
def memory : OperandLayout := { rd := some 1, rs1 := some 3, imm := some 2 }

/-- The layout that goes with a format. -/
def ofFormat : Format → OperandLayout
  | .R => { rd := some 1, rs1 := some 2, rs2 := some 3 }
  | .I => arithmetic
  | .S => { rs1 := some 3, rs2 := some 1, imm := some 2 }
  | .B => { rs1 := some 1, rs2 := some 2, imm := some 3 }
  | .U | .J => { rd := some 1, imm := some 2 }

/-- The layout of the tokens of an instruction. The opcodes of loads, stores and branches fix one; a
register jump puts the offset first if no register stands there. -/
def ofTokens (tokens : List String) (opcode : Int) (format : Format) : OperandLayout :=
  if opcode = Opcode.jumpRegister then
    match tokens[2]? with
    | some token => if Register.isValid token then arithmetic else memory
    | none => arithmetic
  else if opcode = Opcode.load then memory
  else if opcode = Opcode.store then ofFormat .S
  else if opcode = Opcode.branch then ofFormat .B
  else ofFormat format

/-- The number of operands. -/
def operandCount (l : OperandLayout) : Nat :=
  ([l.rd, l.rs1, l.rs2, l.imm].filter Option.isSome).length

end OperandLayout

end RiscvAssembler
