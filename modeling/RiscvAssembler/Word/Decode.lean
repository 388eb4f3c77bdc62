import RiscvAssembler.Table.Basic
import RiscvAssembler.Word.Fields

/-!
# Decoding

A word is decoded by the format that the table gives its opcode. The mnemonic is that of the first
instruction of the table whose constants are all found in the word.

## Main definitions

* `Decoded`, `InstructionTable.decode`: the opcode and the fields of a word.
* `InstructionTable.mnemonic?`: the mnemonic of a decoded word.
-/

namespace RiscvAssembler

/-- The parts of a word. -/
structure Decoded where
  word : Int
  opcode : Int
  fields : Fields
  deriving DecidableEq, Repr

/-- The number of values of a word. -/
def wordModulus : Int := 0x100000000

/-- The constants of the instruction are found in the decoded word. -/
def Instruction.matchesWord (i : Instruction) (d : Decoded) : Bool :=
  i.opcode == d.opcode && i.funct3.all (fun f => f.isCode d.fields.funct3?) &&
    i.funct7.all (fun n => n == d.fields.selector)

namespace InstructionTable

/-- The parts of a word; only its low thirty-two bits count. -/
def decode (t : InstructionTable) (word : Int) : Except Fault Decoded :=
  let word := word % wordModulus
  let opcode := slice 0 7 word
  match t.formatOf? opcode with
  | some f => .ok ⟨word, opcode, Fields.unpack word f⟩
  | none => .error (.unknownOpcode opcode word)

/-- The mnemonic of a decoded word: the first one whose constants match. -/
def mnemonic? (t : InstructionTable) (d : Decoded) : Option String :=
  (t.instructions.find? fun p => p.2.matchesWord d).map (·.1)

end InstructionTable

end RiscvAssembler
