import RiscvAssembler.Dictionary
import RiscvAssembler.Instruction
import RiscvAssembler.Text.Lowercase
import RiscvAssembler.Text.Quoted

/-!
# Instruction tables

A table gives each opcode a format and each mnemonic an instruction. The format of an instruction is
always the one of its opcode; mnemonics are kept in lower case and looked up in any case.

## Main definitions

* `InstructionTable`: a name, the formats and the instructions, both in order.
* `InstructionTable.ofLists`: the table with the given entries, unless a format does not match.
* `InstructionTable.find?`, `resolve`, `resolveFunct3`, `resolveFunct7`, `classify`: look-ups.
* `InstructionTable.description`, `InstructionTable.formatCounts`: a table at a glance.
-/

namespace RiscvAssembler

open Text

/-- The formats of opcodes and the instructions behind mnemonics. -/
structure InstructionTable where
  name : String
  formats : List (Int × Format)
  instructions : List (String × Instruction)
  /-- Every instruction has the format of its opcode. -/
  lookup_opcode : ∀ p ∈ instructions, formats.lookup p.2.opcode = some p.2.format

namespace InstructionTable

/-- An instruction whose format is not the one of its opcode. -/
structure Mismatch where
  mnemonic : String
  instruction : Instruction
  deriving Repr

/-- The wording of the error. -/
def Mismatch.message (m : Mismatch) : String :=
  m.mnemonic ++ ": format " ++ m.instruction.format.letter ++ " does not match opcode 0x" ++
    hexUpper 2 m.instruction.opcode

/-- The table with the given entries. Of two entries under one key the first gives the place and the
last the value, also where mnemonics differ in case only. -/
def ofLists (name : String) (formats : List (Int × Format))
    (instructions : List (String × Instruction)) : Except Mismatch InstructionTable :=
  let formats := Dictionary.ofList formats
  let instructions := Dictionary.ofList instructions
  match h : instructions.find? fun p => formats.lookup p.2.opcode != some p.2.format with
  | some p => .error ⟨p.1, p.2⟩
  | none =>
    .ok {
      name, formats
      instructions := Dictionary.ofList (instructions.map fun p => (lowercase p.1, p.2))
      lookup_opcode := by
        intro p hp
        have hp := Dictionary.mem_values_of_mem_ofList hp
        simp only [List.map_map, List.mem_map, Function.comp_apply] at hp
        obtain ⟨q, hq, hv⟩ := hp
        have := List.find?_eq_none.mp h q hq
        rw [← hv]
        simpa using this }

/-! ### Look-ups -/

/-- The number of instructions. -/
def size (t : InstructionTable) : Nat :=
  t.instructions.length

/-- The mnemonics, in order. -/
def mnemonics (t : InstructionTable) : List String :=
  t.instructions.map (·.1)

/-- The format of an opcode. -/
def formatOf? (t : InstructionTable) (opcode : Int) : Option Format :=
  t.formats.lookup opcode

/-- The instruction of a mnemonic in any case. -/
def find? (t : InstructionTable) (mnemonic : String) : Option Instruction :=
  t.instructions.lookup (lowercase mnemonic)

/-- The mnemonic, in any case, is in the table. -/
def contains (t : InstructionTable) (mnemonic : String) : Bool :=
  (t.find? mnemonic).isSome

/-- The instruction of a mnemonic, or the fault that there is none. -/
def resolve (t : InstructionTable) (mnemonic : String) : Except Fault Instruction :=
  match t.find? mnemonic with
  | some i => .ok i
  | none => .error (.unknownMnemonic mnemonic)

/-- Why the look-up of a function code has no answer. -/
inductive LookupError
  | fault (fault : Fault)
  | noField (mnemonic field : String)
  deriving Repr

/-- The wording of a missing field. -/
def LookupError.message : LookupError → String
  | fault f => f.message
  | noField mnemonic field => mnemonic ++ " has no " ++ field ++ " field"

/-- The three-bit function code of a mnemonic. -/
def resolveFunct3 (t : InstructionTable) (mnemonic : String) : Except LookupError FunctionCode :=
  match t.resolve mnemonic with
  | .error f => .error (.fault f)
  | .ok i =>
    match i.funct3 with
    | some f => .ok f
    | none => .error (.noField mnemonic "funct3")

/-- The seven-bit function code of a mnemonic. -/
def resolveFunct7 (t : InstructionTable) (mnemonic : String) : Except LookupError Int :=
  match t.resolve mnemonic with
  | .error f => .error (.fault f)
  | .ok i =>
    match i.funct7 with
    | some f => .ok f
    | none => .error (.noField mnemonic "funct7")

/-- An opcode that the table gives no format. -/
structure Unclassified where
  opcode : Int
  deriving DecidableEq, Repr

/-- The wording of the error. -/
def Unclassified.message (u : Unclassified) : String :=
  "Opcode 0x" ++ hexUpper 2 u.opcode ++ " has no instruction format"

/-- The format of an opcode. -/
def classify (t : InstructionTable) (opcode : Int) : Except Unclassified Format :=
  match t.formatOf? opcode with
  | some f => .ok f
  | none => .error ⟨opcode⟩

theorem formatOf?_opcode {t : InstructionTable} {p : String × Instruction}
    (h : p ∈ t.instructions) : t.formatOf? p.2.opcode = some p.2.format :=
  t.lookup_opcode p h

/-! ### A table at a glance -/

/-- One line that says what the table is. -/
def description (t : InstructionTable) : String :=
  "InstructionSet(" ++ quoted t.name ++ ", " ++ decimal t.size ++ " instructions)"

/-- How many instructions each format has, in order of first use. -/
def formatCounts (t : InstructionTable) : List (Format × Nat) :=
  t.instructions.foldl
    (fun counts p =>
      Dictionary.insert p.2.format ((counts.lookup p.2.format).getD 0 + 1) counts) []

/-- The opcodes that have a format, in increasing order. -/
def opcodes (t : InstructionTable) : List Int :=
  (t.formats.map (·.1)).mergeSort

end InstructionTable

end RiscvAssembler
