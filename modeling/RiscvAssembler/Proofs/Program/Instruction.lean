import RiscvAssembler.Program.Instruction
import RiscvAssembler.Proofs.Dictionary
import RiscvAssembler.Proofs.Literal
import RiscvAssembler.Proofs.Register
import RiscvAssembler.Proofs.Word.RoundTrip

/-!
# Reading the operands of an instruction

A base instruction is assembled in three steps, each of which may fail by itself: its mnemonic is
looked up, its operands are read, and they are encoded.

## Main results

* `Instruction.layout_cases`: the layouts of operands.
* `assembleInstruction_eq_ok`, `readOperands_eq_ok`: an instruction is assembled if all steps
  succeed.
* `assembleInstruction_eq_error`: it fails in one of them.
* `resolveImmediate_eq_ok`: the value of an operand that is no literal is that of a label.
-/

namespace RiscvAssembler

open Text

/-! ### Immediates -/

section

variable {token : String} {labels : SymbolTable} {pc value : Int} {f : Format}

theorem resolveImmediate_of_parseImmediate (h : Unblanked token)
    (hvalue : parseImmediate token = .ok value) :
    resolveImmediate token labels pc f = .ok value := by
  rw [resolveImmediate, h.trim_eq, hvalue]

theorem resolveImmediate_decimal (n : Int) (labels : SymbolTable) (pc : Int) (f : Format) :
    resolveImmediate (decimal n) labels pc f = .ok n :=
  resolveImmediate_of_parseImmediate (unblanked_decimal n) (parseImmediate_decimal n)

/-- **An operand that is no literal** has a value if it is the name of a label that is defined. -/
theorem resolveImmediate_eq_ok (h : Unblanked token) (hl : isLiteral token = false) :
    resolveImmediate token labels pc f = .ok value ↔ isLabelName token = true ∧
      ∃ address, labels.lookup token = some address ∧ value = labelValue f address pc := by
  rw [isLiteral] at hl
  rw [resolveImmediate, h.trim_eq]
  cases hparse : parseImmediate token with
  | ok n =>
    rw [hparse] at hl
    cases hl
  | error fault =>
    cases hname : isLabelName token with
    | false => simp
    | true =>
      cases hlookup : labels.lookup token with
      | none => simp
      | some address => simp [eq_comm]

theorem resolveImmediate_of_isLabelName (h : Unblanked token) (hname : isLabelName token = true)
    {address : Int} (hlookup : labels.lookup token = some address) :
    resolveImmediate token labels pc f = .ok (labelValue f address pc) :=
  (resolveImmediate_eq_ok h (isLiteral_of_isLabelName h hname)).mpr ⟨hname, address, hlookup, rfl⟩

end

/-! ### Operands -/

theorem operandValues_eq_ok {l : OperandLayout} {tokens : List String} {labels : SymbolTable}
    {pc : Int} {f : Format} {o : Operands} :
    operandValues l tokens labels pc f = .ok o ↔
      operandAt tokens l.rd Register.resolve = .ok o.rd ∧
        operandAt tokens l.rs1 Register.resolve = .ok o.rs1 ∧
        operandAt tokens l.rs2 Register.resolve = .ok o.rs2 ∧
        operandAt tokens l.imm (fun operand => resolveImmediate operand labels pc f)
          = .ok o.imm := by
  simp only [operandValues, bind_eq_ok, pure_eq_ok]
  constructor
  · rintro ⟨rd, hrd, rs1, hrs1, rs2, hrs2, imm, himm, rfl⟩
    exact ⟨hrd, hrs1, hrs2, himm⟩
  · rintro ⟨hrd, hrs1, hrs2, himm⟩
    exact ⟨_, hrd, _, hrs1, _, hrs2, _, himm, rfl⟩

/-- The layout of the operands of an instruction with the given tokens. -/
def Instruction.layout (i : Instruction) (tokens : List String) : OperandLayout :=
  .ofTokens tokens i.opcode i.format

namespace Instruction

/-- The format whose operands the opcode fixes, that of the instruction if it fixes none. -/
def operandFormat (i : Instruction) : Format :=
  if i.opcode = Opcode.load ∨ i.opcode = Opcode.jumpRegister then .I
  else if i.opcode = Opcode.store then .S
  else if i.opcode = Opcode.branch then .B
  else i.format

/-- A layout is that of a format, or that of an operand in memory. -/
theorem layout_cases (i : Instruction) (tokens : List String) :
    i.layout tokens = .ofFormat i.operandFormat ∨
      i.layout tokens = .memory ∧ i.operandFormat = .I := by
  rw [layout, OperandLayout.ofTokens, operandFormat]
  by_cases hjump : i.opcode = Opcode.jumpRegister
  · rw [if_pos hjump, if_pos (Or.inr hjump)]
    split
    · split
      · exact Or.inl rfl
      · exact Or.inr ⟨rfl, rfl⟩
    · exact Or.inl rfl
  · rw [if_neg hjump]
    by_cases hload : i.opcode = Opcode.load
    · rw [if_pos hload, if_pos (Or.inl hload)]
      exact Or.inr ⟨rfl, rfl⟩
    · rw [if_neg hload, if_neg (not_or.mpr ⟨hload, hjump⟩)]
      refine Or.inl ?_
      split
      · rfl
      · split <;> rfl

/-- The operands of a register jump stand where its second operand decides. -/
theorem layout_of_jumpRegister {i : Instruction} (hi : i.opcode = Opcode.jumpRegister)
    (m rd token last : String) :
    i.layout [m, rd, token, last]
      = if Register.isValid token then .arithmetic else .memory := by
  rw [layout, OperandLayout.ofTokens, if_pos hi]
  rfl

/-- Those of any other instruction do not depend on its tokens. -/
theorem layout_of_ne {i : Instruction} (h : i.opcode ≠ Opcode.jumpRegister)
    (tokens tokens' : List String) : i.layout tokens = i.layout tokens' := by
  rw [layout, layout, OperandLayout.ofTokens, OperandLayout.ofTokens, if_neg h, if_neg h]

end Instruction

/-- Where the layout of an instruction has its operands. -/
def OperandLayout.positions (l : OperandLayout) : List Nat :=
  [l.rd, l.rs1, l.rs2, l.imm].filterMap id

/-- Operands stand right after the mnemonic. -/
theorem Instruction.bounds_of_mem_positions (i : Instruction) (tokens : List String) :
    ∀ n ∈ (i.layout tokens).positions, 0 < n ∧ n ≤ (i.layout tokens).operandCount := by
  rcases i.layout_cases tokens with h | ⟨h, -⟩ <;> rw [h]
  · cases i.operandFormat <;> decide
  · decide

theorem readOperands_eq_ok {i : Instruction} {tokens : List String} {labels : SymbolTable}
    {pc : Int} {o : Operands} :
    readOperands i tokens labels pc = .ok o ↔
      tokens.length = (i.layout tokens).operandCount + 1 ∧
        operandValues (i.layout tokens) tokens labels pc i.format = .ok o := by
  rw [readOperands, Instruction.layout]
  split
  · rename_i h
    exact (and_iff_right h).symm
  · rename_i h
    constructor
    · rintro ⟨⟩
    · rintro ⟨hlength, -⟩
      exact absurd hlength h

theorem bounds_of_operandAt {tokens : List String} {position : Option Nat} {n : Int}
    (h : operandAt tokens position Register.resolve = .ok n) : 0 ≤ n ∧ n ≤ 31 := by
  cases position with
  | none =>
    cases h
    decide
  | some k =>
    rw [operandAt] at h
    exact Register.bounds_of_resolve h

/-- Registers that are read have numbers of registers. -/
theorem nameRegisters_of_readOperands {i : Instruction} {tokens : List String}
    {labels : SymbolTable} {pc : Int} {o : Operands} (h : readOperands i tokens labels pc = .ok o) :
    o.NameRegisters := by
  obtain ⟨hrd, hrs1, hrs2, -⟩ := operandValues_eq_ok.mp (readOperands_eq_ok.mp h).2
  exact ⟨bounds_of_operandAt hrd, bounds_of_operandAt hrs1, bounds_of_operandAt hrs2⟩

theorem InstructionTable.resolve_eq_ok {t : InstructionTable} {mnemonic : String}
    {i : Instruction} : t.resolve mnemonic = .ok i ↔ t.find? mnemonic = some i := by
  rw [resolve]
  cases t.find? mnemonic <;> simp

/-- **An instruction is assembled in three steps.** -/
theorem assembleInstruction_eq_ok {t : InstructionTable} {labels : SymbolTable} {pc w : Int}
    {tokens : List String} :
    assembleInstruction t labels pc tokens = .ok w ↔ tokens ≠ [] ∧
      ∃ i, t.find? (tokens.headD "") = some i ∧
        ∃ o, readOperands i tokens labels pc = .ok o ∧ i.encode o = .ok w := by
  cases tokens with
  | nil => simp [assembleInstruction]
  | cons mnemonic rest =>
    simp only [assembleInstruction, bind_eq_ok, liftFault_eq_ok, InstructionTable.resolve_eq_ok,
      List.headD_cons, ne_eq, reduceCtorEq, not_false_eq_true, true_and]

section

variable {t : InstructionTable} {labels : SymbolTable} {pc : Int} {tokens : List String}
  {i : Instruction}

/-- An instruction that is found is assembled by reading its operands and encoding them. -/
theorem assembleInstruction_of_find? (hne : tokens ≠ []) (hi : t.find? (tokens.headD "") = some i) :
    assembleInstruction t labels pc tokens
      = liftFault (readOperands i tokens labels pc) >>= i.encode := by
  obtain ⟨mnemonic, operands, rfl⟩ := List.exists_cons_of_ne_nil hne
  rw [List.headD_cons] at hi
  rw [assembleInstruction, InstructionTable.resolve_eq_ok.mpr hi]
  rfl

/-- **An instruction fails in one of the three steps.** -/
theorem assembleInstruction_eq_error (hne : tokens ≠ []) {failure : Failure Fault} :
    assembleInstruction t labels pc tokens = .error failure ↔
      (t.find? (tokens.headD "") = none ∧ failure = .fault (.unknownMnemonic (tokens.headD ""))) ∨
        ∃ i, t.find? (tokens.headD "") = some i ∧
          ((∃ fault, readOperands i tokens labels pc = .error fault ∧ failure = .fault fault) ∨
            ∃ o, readOperands i tokens labels pc = .ok o ∧ i.encode o = .error failure) := by
  cases hfind : t.find? (tokens.headD "") with
  | none =>
    obtain ⟨mnemonic, operands, rfl⟩ := List.exists_cons_of_ne_nil hne
    rw [List.headD_cons] at hfind ⊢
    have hrefused : assembleInstruction t labels pc (mnemonic :: operands)
        = .error (.fault (.unknownMnemonic mnemonic)) := by
      rw [assembleInstruction, InstructionTable.resolve, hfind]
      rfl
    simp [hrefused, eq_comm]
  | some i =>
    rw [assembleInstruction_of_find? hne hfind, bind_eq_error]
    simp [liftFault_eq_error]

/-- An instruction whose operands can be read fails as its encoding does. -/
theorem assembleInstruction_of_readOperands (hne : tokens ≠ [])
    (hi : t.find? (tokens.headD "") = some i) {o : Operands}
    (ho : readOperands i tokens labels pc = .ok o) :
    assembleInstruction t labels pc tokens = i.encode o := by
  rw [assembleInstruction_of_find? hne hi, ho]
  rfl

/-- An instruction whose operands cannot be read is refused for that. -/
theorem assembleInstruction_of_readOperands_eq_error (hne : tokens ≠ [])
    (hi : t.find? (tokens.headD "") = some i) {fault : Fault}
    (h : readOperands i tokens labels pc = .error fault) :
    assembleInstruction t labels pc tokens = .error (.fault fault) := by
  rw [assembleInstruction_of_find? hne hi, h]
  rfl

end

/-- An instruction that is found is one of the table. -/
theorem InstructionTable.mem_of_find? {t : InstructionTable} {mnemonic : String} {i : Instruction}
    (h : t.find? mnemonic = some i) : (lowercase mnemonic, i) ∈ t.instructions :=
  Dictionary.mem_of_lookup h

theorem find?_addi :
    InstructionTable.rv32i.find? "addi" = some (InstructionTable.immediateOperation 0) := rfl

theorem find?_lui :
    InstructionTable.rv32i.find? "lui" = some { opcode := 0x37, format := .U } := rfl

end RiscvAssembler
