import RiscvAssembler.Register
import RiscvAssembler.Word.Decode

/-!
# Disassembly

The text of a word: its mnemonic, registers by role, and the immediate. A word that no instruction
of the table matches shows its opcode in place of a mnemonic.
-/

namespace RiscvAssembler

open Text

/-- The name by role of the register in a field. -/
def registerText (n : Int) : String :=
  Register.roleName n.toNat

/-- An operand in memory: an offset from the address in a register. -/
def memoryText (offset base : Int) : String :=
  decimal offset ++ "(" ++ registerText base ++ ")"

namespace InstructionTable

/-- What stands in place of the mnemonic of a decoded word. An empty mnemonic counts as none. -/
def mnemonicText (t : InstructionTable) (d : Decoded) : String :=
  match t.mnemonic? d with
  | some m => if m.isEmpty then "0x" ++ hexLower 2 d.opcode else m
  | none => "0x" ++ hexLower 2 d.opcode

/-- The operands of a decoded word with mnemonic `m`, each as text. The immediate of an instruction
with a seven-bit function code in it is the shift amount alone. -/
def operandTexts (t : InstructionTable) (m : String) (d : Decoded) : List String :=
  match d.fields with
  | .R rd rs1 rs2 _ _ => [registerText rd, registerText rs1, registerText rs2]
  | .I rd rs1 _ imm =>
    if d.opcode = Opcode.load then [registerText rd, memoryText imm rs1]
    else
      let isShift := ((t.find? m).bind (·.funct7)).isSome
      [registerText rd, registerText rs1, decimal (if isShift then imm % 32 else imm)]
  | .S rs1 rs2 _ imm => [registerText rs2, memoryText imm rs1]
  | .B rs1 rs2 _ imm => [registerText rs1, registerText rs2, decimal imm]
  | .U rd imm => [registerText rd, "0x" ++ hexLower 0 imm]
  | .J rd imm => [registerText rd, decimal imm]

/-- The text of a word. -/
def disassemble (t : InstructionTable) (word : Int) : Except Fault String := do
  let d ← t.decode word
  let m := t.mnemonicText d
  pure (m ++ " " ++ String.intercalate ", " (t.operandTexts m d))

end InstructionTable

end RiscvAssembler
