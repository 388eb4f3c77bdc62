import RiscvAssembler.Operand.Immediate
import RiscvAssembler.Operand.Layout
import RiscvAssembler.Table.Basic
import RiscvAssembler.Word.Encode

/-!
# Assembling one base instruction

The mnemonic selects an instruction of the table, its opcode and format say where the operands
stand, and their values are encoded.
-/

namespace RiscvAssembler

/-- The value of the operand at a position, zero if the instruction has no such operand. -/
def operandAt (tokens : List String) (position : Option Nat)
    (value : String → Except Fault Int) : Except Fault Int :=
  match position with
  | none => .ok 0
  | some n => value (tokens.getD n "")

/-- The values of the operands that stand where `layout` says. -/
def operandValues (layout : OperandLayout) (tokens : List String) (labels : SymbolTable) (pc : Int)
    (format : Format) : Except Fault Operands := do
  let rd ← operandAt tokens layout.rd Register.resolve
  let rs1 ← operandAt tokens layout.rs1 Register.resolve
  let rs2 ← operandAt tokens layout.rs2 Register.resolve
  let imm ← operandAt tokens layout.imm fun operand => resolveImmediate operand labels pc format
  pure ⟨rd, rs1, rs2, imm⟩

/-- The operands that the tokens, mnemonic first, give to an instruction, if there are as many as it
needs. -/
def readOperands (i : Instruction) (tokens : List String) (labels : SymbolTable) (pc : Int) :
    Except Fault Operands :=
  let layout := OperandLayout.ofTokens tokens i.opcode i.format
  if tokens.length = layout.operandCount + 1 then operandValues layout tokens labels pc i.format
  else .error (.operandCount (tokens.headD "") layout.operandCount (tokens.length - 1))

/-- The word of the base instruction with the given tokens, mnemonic first, at address `pc`. -/
def assembleInstruction (t : InstructionTable) (labels : SymbolTable) (pc : Int)
    (tokens : List String) : Except (Failure Fault) Int := do
  match tokens with
  | [] => .error (.misuse .noMnemonic)
  | mnemonic :: _ =>
    let i ← liftFault (t.resolve mnemonic)
    let operands ← liftFault (readOperands i tokens labels pc)
    i.encode operands

end RiscvAssembler
