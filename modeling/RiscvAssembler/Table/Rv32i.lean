import RiscvAssembler.Table.Basic

/-!
# The RV32I base integer instruction set

The built-in table: thirty-seven instructions on nine opcodes.
-/

namespace RiscvAssembler

namespace InstructionTable

/-- The formats of the opcodes of RV32I. -/
def rv32iFormats : List (Int × Format) :=
  [(0x13, .I), (0x67, .I), (0x03, .I), (0x33, .R), (0x6F, .J), (0x37, .U), (0x17, .U), (0x63, .B),
   (0x23, .S)]

/-- A register-register instruction. -/
def registerOperation (funct3 funct7 : Int) : Instruction :=
  { opcode := 0x33, format := .R, funct3 := some (.code funct3), funct7 := some funct7 }

/-- An instruction with an immediate of twelve bits. -/
def immediateOperation (funct3 : Int) : Instruction :=
  { opcode := 0x13, format := .I, funct3 := some (.code funct3) }

/-- A shift by a constant. -/
def immediateShift (funct3 funct7 : Int) : Instruction :=
  { opcode := 0x13, format := .I, funct3 := some (.code funct3), funct7 := some funct7 }

/-- A load. -/
def loadOperation (funct3 : Int) : Instruction :=
  { opcode := 0x03, format := .I, funct3 := some (.code funct3) }

/-- A store. -/
def storeOperation (funct3 : Int) : Instruction :=
  { opcode := 0x23, format := .S, funct3 := some (.code funct3) }

/-- A conditional branch. -/
def branchOperation (funct3 : Int) : Instruction :=
  { opcode := 0x63, format := .B, funct3 := some (.code funct3) }

/-- The instructions of RV32I. -/
def rv32iInstructions : List (String × Instruction) :=
  [("add", registerOperation 0 0x00),
   ("sub", registerOperation 0 0x20),
   ("sll", registerOperation 1 0x00),
   ("slt", registerOperation 2 0x00),
   ("sltu", registerOperation 3 0x00),
   ("xor", registerOperation 4 0x00),
   ("srl", registerOperation 5 0x00),
   ("sra", registerOperation 5 0x20),
   ("or", registerOperation 6 0x00),
   ("and", registerOperation 7 0x00),
   ("addi", immediateOperation 0),
   ("slti", immediateOperation 2),
   ("sltiu", immediateOperation 3),
   ("xori", immediateOperation 4),
   ("ori", immediateOperation 6),
   ("andi", immediateOperation 7),
   ("slli", immediateShift 1 0x00),
   ("srli", immediateShift 5 0x00),
   ("srai", immediateShift 5 0x20),
   ("lb", loadOperation 0),
   ("lh", loadOperation 1),
   ("lw", loadOperation 2),
   ("lbu", loadOperation 4),
   ("lhu", loadOperation 5),
   ("sb", storeOperation 0),
   ("sh", storeOperation 1),
   ("sw", storeOperation 2),
   ("beq", branchOperation 0),
   ("bne", branchOperation 1),
   ("blt", branchOperation 4),
   ("bge", branchOperation 5),
   ("bltu", branchOperation 6),
   ("bgeu", branchOperation 7),
   ("jal", { opcode := 0x6F, format := .J }),
   ("jalr", { opcode := 0x67, format := .I, funct3 := some (.code 0) }),
   ("lui", { opcode := 0x37, format := .U }),
   ("auipc", { opcode := 0x17, format := .U })]

/-- The built-in table. -/
def rv32i : InstructionTable where
  name := "rv32i"
  formats := rv32iFormats
  instructions := rv32iInstructions
  lookup_opcode := by decide

/-- A table that has instructions, and the built-in one in place of any other. -/
def orBuiltIn : Option InstructionTable → InstructionTable
  | some t => if t.size = 0 then rv32i else t
  | none => rv32i

end InstructionTable

end RiscvAssembler
