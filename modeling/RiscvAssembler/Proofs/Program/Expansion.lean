import RiscvAssembler.Proofs.Literal.Grammar
import RiscvAssembler.Proofs.Program.Blame
import RiscvAssembler.Proofs.Program.Constant

/-!
# What expansion leaves for the encoder

Expansion ends with base instructions, which stand for themselves. Those that a pseudo-instruction
stands for have mnemonics of RV32I and as many operands as these need: the number goes with the
format of an instruction, and a template has as many slots. So only an operand can be wrong with
them, wherever they are assembled. The parts of a constant cannot, since each has room in its field;
then the register is all that is left to be wrong.

## Main definitions

* `InstructionTable.IsComplete`: tokens with a known mnemonic and as many operands as it needs.
* `Family.ofOperands`: the families of what can be wrong with an operand.

## Main results

* `Refusal.family_mem`: such tokens are refused for an operand.
* `ExpandsTo.isComplete`: a pseudo-instruction stands for such tokens.
* `assembleInstruction_of_mem_loadConstant`: the instructions for a constant are refused for the
  register, or not at all.
* `expand_wellFormed`: what expansion brings forth.
-/

namespace RiscvAssembler

open Text

/-! ### Numbers of operands -/

/-- The tokens have a mnemonic of the table, and as many operands as the instruction needs. -/
def InstructionTable.IsComplete (t : InstructionTable) (tokens : List String) : Prop :=
  ∃ i, t.find? (tokens.headD "") = some i ∧ tokens.length = (i.layout tokens).operandCount + 1

/-- **The number of operands goes with the format**, also where their order depends on them. -/
theorem Instruction.operandCount_layout (i : Instruction) (tokens : List String) :
    (i.layout tokens).operandCount = (OperandLayout.ofFormat i.operandFormat).operandCount := by
  rcases i.layout_cases tokens with h | ⟨h, hformat⟩
  · rw [h]
  · rw [h, hformat]
    rfl

theorem InstructionTable.isComplete_cons {t : InstructionTable} {m : String} {i : Instruction}
    {operands : List String} (hi : t.find? m = some i)
    (hcount : operands.length = (OperandLayout.ofFormat i.operandFormat).operandCount) :
    t.IsComplete (m :: operands) := by
  refine ⟨i, hi, ?_⟩
  rw [i.operandCount_layout, List.length_cons, hcount]

/-- **A template has as many slots** as its mnemonic needs operands. -/
theorem Pseudo.exists_find?_mnemonic : ∀ p ∈ templates ++ shortForms,
    ∃ i ∈ InstructionTable.rv32i.find? p.2.mnemonic,
      p.2.slots.length = (OperandLayout.ofFormat i.operandFormat).operandCount := by
  decide +kernel

open InstructionTable in
/-- **A pseudo-instruction stands for tokens** with as many operands as they need. -/
theorem ExpandsTo.isComplete {tokens : List String} {instructions : List (List String)}
    (h : ExpandsTo tokens instructions) (hp : isPseudo tokens = true) :
    ∀ e ∈ instructions, rv32i.IsComplete e := by
  have haddi : ∀ rd rs imm, rv32i.IsComplete ["addi", rd, rs, imm] :=
    fun _ _ _ => isComplete_cons find?_addi rfl
  cases h with
  | itself hbase =>
    rw [hp] at hbase
    cases hbase
  | template hfind =>
    obtain ⟨i, hi, hslots⟩ := Pseudo.exists_find?_mnemonic _ (Pseudo.mem_of_find? hfind)
    exact List.forall_mem_singleton.mpr (isComplete_cons hi ((List.length_map _).trans hslots))
  | address => exact List.forall_mem_singleton.mpr (haddi _ _ _)
  | constant =>
    intro e he
    rcases Pseudo.mem_loadConstant he with ⟨n, -, rfl⟩ | ⟨rs, -, n, -, rfl⟩
    · exact isComplete_cons find?_lui rfl
    · exact haddi _ _ _

/-! ### What can be wrong with an operand -/

/-- The families of what can be wrong with an operand: it names no register, is no immediate, names
a label that is not there, or has a value without room in its field. -/
def Family.ofOperands : List Family :=
  [.unknownRegister, .immediateParsing, .undefinedLabel, .immediateRange]

section

variable {t : InstructionTable} {labels : SymbolTable} {pc : Int} {tokens : List String}
  {fault : Fault}

theorem Role.family_of_resolve {role : Role} {f : Format} {token : String}
    (h : role.resolve labels pc f token = .error fault) : fault.family ∈ Family.ofOperands := by
  cases role with
  | rd | rs1 | rs2 =>
    have hregister : Register.resolve token = .error fault := h
    obtain ⟨-, rfl⟩ := Register.resolve_eq_error.mp hregister
    simp [Family.ofOperands, Fault.family]
  | imm =>
    rw [Role.resolve, resolveImmediate] at h
    split at h
    · cases h
    · split at h
      · split at h <;> cases h
        simp [Family.ofOperands, Fault.family]
      · cases h
        simp [Family.ofOperands, Fault.family]

/-- **Tokens with as many operands as they need** are refused for an operand. -/
theorem Refusal.family_mem (h : Refusal t labels pc tokens fault) (ht : t.IsComplete tokens) :
    fault.family ∈ Family.ofOperands := by
  obtain ⟨i, hi, hlength⟩ := ht
  cases h with
  | mnemonic hnone =>
    rw [hi] at hnone
    cases hnone
  | count hj hcount =>
    obtain rfl := Option.some.inj (hi.symm.trans hj)
    exact absurd hlength hcount
  | operand _ _ _ hresolve => exact Role.family_of_resolve hresolve
  | immediate _ _ hcheck =>
    rw [Instruction.family_of_checkImmediate hcheck]
    decide

/-! ### Constants -/

/-- An instruction whose first operand is its destination is refused for it. -/
theorem assembleInstruction_of_destination {m rd : String} {operands : List String}
    (ht : t.IsComplete (m :: rd :: operands))
    (hrd : ∀ i, t.find? m = some i → (i.layout (m :: rd :: operands)).rd = some 1)
    (h : Register.resolve rd = .error fault) (labels : SymbolTable) (pc : Int) :
    assembleInstruction t labels pc (m :: rd :: operands) = .error (.fault fault) := by
  obtain ⟨i, hi, hlength⟩ := ht
  have hvalues : operandValues (i.layout (m :: rd :: operands)) (m :: rd :: operands) labels pc
      i.format = .error fault := by
    rw [operandValues, hrd i hi, operandAt, List.getD_cons_succ, List.getD_cons_zero, h]
    rfl
  have hread : readOperands i (m :: rd :: operands) labels pc = .error fault :=
    (if_pos hlength).trans hvalues
  exact assembleInstruction_of_readOperands_eq_error (List.cons_ne_nil _ _) hi hread

open InstructionTable in
/-- **The instructions for a constant** have words wherever they stand, if the register is one, and
are refused for it otherwise. -/
theorem assembleInstruction_of_mem_loadConstant {rd : String} {value : Int}
    (h : tokens ∈ Pseudo.loadConstant rd value) :
    (∃ w, ∀ labels pc, assembleInstruction rv32i labels pc tokens = .ok w) ∨
      ∀ labels pc, assembleInstruction rv32i labels pc tokens
        = .error (.fault (.unknownRegister rd)) := by
  cases hrd : Register.resolve rd with
  | ok r =>
    left
    rcases Pseudo.mem_loadConstant h with ⟨n, ⟨hlow, hhigh⟩, rfl⟩ | ⟨rs, hrs, n, ⟨hlow, hhigh⟩, rfl⟩
    · obtain ⟨w, hw, -⟩ := exists_loadUpper hrd hlow hhigh
      exact ⟨w, hw⟩
    · have hzero : Register.resolve "x0" = .ok 0 := by decide
      obtain ⟨s, hs⟩ : ∃ s, Register.resolve rs = .ok s := by
        rcases List.mem_pair.mp hrs with rfl | rfl
        · exact ⟨0, hzero⟩
        · exact ⟨r, hrd⟩
      obtain ⟨w, hw, -⟩ := exists_addImmediate hrd hs hlow hhigh
      exact ⟨w, hw⟩
  | error fault =>
    right
    obtain ⟨-, rfl⟩ := Register.resolve_eq_error.mp hrd
    rcases Pseudo.mem_loadConstant h with ⟨n, -, rfl⟩ | ⟨rs, -, n, -, rfl⟩
    · refine assembleInstruction_of_destination (isComplete_cons find?_lui rfl) ?_ hrd
      intro i hi
      obtain rfl := Option.some.inj (find?_lui.symm.trans hi)
      rfl
    · refine assembleInstruction_of_destination (isComplete_cons find?_addi rfl) ?_ hrd
      intro i hi
      obtain rfl := Option.some.inj (find?_addi.symm.trans hi)
      rfl

end

/-- A literal is no name of a label, also without the blanks around it. -/
theorem not_isLabelName_trim {text : String} (h : isLiteral text = true) :
    isLabelName (trim text) = false := by
  rw [isLiteral] at h
  cases hparse : parseImmediate text with
  | error fault =>
    rw [hparse] at h
    cases h
  | ok n =>
    have hvalue := Literal.value?_eq_some.mp (parseImmediate_eq_ok.mp hparse)
    have hdenotes : DenotesBetweenBlanks (trim text) n :=
      ⟨[], _, [], by simp, by simp, by simp, hvalue⟩
    exact Bool.eq_false_iff.mpr fun hname => not_hasLabelShape hdenotes ⟨_, hname, .inl rfl⟩

/-- A number is loaded as a constant. -/
theorem ExpandsTo.exists_loadConstant {mnemonic rd operand : String}
    {instructions : List (List String)} (h : ExpandsTo [mnemonic, rd, operand] instructions)
    (hm : lowercase mnemonic = "li") (hl : isLiteral operand = true) :
    ∃ value, instructions = Pseudo.loadConstant rd value := by
  rcases h.load_cases hm with ⟨hname, -⟩ | ⟨value, -, hinstructions⟩
  · rw [not_isLabelName_trim hl] at hname
    cases hname
  · exact ⟨value, hinstructions⟩

/-- **Expansion is closed and well-formed.** It brings forth one or two instructions, which stand
for themselves. Those that a pseudo-instruction stands for are known, with as many operands as they
need, so that they are refused for an operand only; and those that load a number are refused for the
register only. -/
theorem expand_wellFormed {tokens : List String} {instructions : List (List String)}
    (h : expand tokens = .ok instructions) :
    (1 ≤ instructions.length ∧ instructions.length ≤ 2) ∧
      (∀ e ∈ instructions, isPseudo e = false ∧ expand e = .ok [e]) ∧
      (isPseudo tokens = true → ∀ e ∈ instructions, InstructionTable.rv32i.IsComplete e ∧
        ∀ labels pc failure, assembleInstruction .rv32i labels pc e = .error failure →
          ∃ fault, failure = .fault fault ∧ fault.family ∈ Family.ofOperands) ∧
      ∀ mnemonic rd operand, tokens = [mnemonic, rd, operand] → lowercase mnemonic = "li" →
        isLiteral operand = true → ∀ e ∈ instructions,
          (∃ w, ∀ labels pc, assembleInstruction .rv32i labels pc e = .ok w) ∨
            ∀ labels pc, assembleInstruction .rv32i labels pc e
              = .error (.fault (.unknownRegister rd)) := by
  have hexpands := expandsTo_of_eq_ok h
  refine ⟨hexpands.length_bounds, fun e he => ?_, fun hp e he => ?_, ?_⟩
  · have hbase := hexpands.isPseudo_eq_false e he
    exact ⟨hbase, expand_eq_self hbase⟩
  · have hcomplete := hexpands.isComplete hp e he
    refine ⟨hcomplete, fun labels pc failure hfailure => ?_⟩
    have hne : e ≠ [] := by
      rintro rfl
      obtain ⟨_, -, hlength⟩ := hcomplete
      cases hlength
    obtain ⟨fault, rfl, hrefusal⟩ := refusal_of_assembleInstruction .builtIn hne hfailure
    exact ⟨fault, rfl, hrefusal.family_mem hcomplete⟩
  · rintro mnemonic rd operand rfl hm hl e he
    obtain ⟨value, rfl⟩ := hexpands.exists_loadConstant hm hl
    exact assembleInstruction_of_mem_loadConstant he

/-- A constant whose upper part wraps around to zero, and a register that there is not: both
instructions are refused for it. -/
theorem expand_wellFormed_wrapped :
    expand ["LI", "q0", " 0xFFFFF800 "] = .ok [["lui", "q0", "0"], ["addi", "q0", "q0", "-2048"]] ∧
      isPseudo ["LI", "q0", " 0xFFFFF800 "] = true ∧ lowercase "LI" = "li" ∧
      isLiteral " 0xFFFFF800 " = true ∧ isPseudo ["addi", "q0", "q0", "-2048"] = false ∧
      InstructionTable.rv32i.IsComplete ["addi", "q0", "q0", "-2048"] ∧
      ((∃ w, ∀ labels pc,
          assembleInstruction .rv32i labels pc ["addi", "q0", "q0", "-2048"] = .ok w) ∨
        ∀ labels pc, assembleInstruction .rv32i labels pc ["addi", "q0", "q0", "-2048"]
          = .error (.fault (.unknownRegister "q0"))) := by
  have h : expand ["LI", "q0", " 0xFFFFF800 "]
      = .ok [["lui", "q0", "0"], ["addi", "q0", "q0", "-2048"]] := by decide +kernel
  have hp : isPseudo ["LI", "q0", " 0xFFFFF800 "] = true := by decide +kernel
  have hm : lowercase "LI" = "li" := by decide
  have hl : isLiteral " 0xFFFFF800 " = true := by decide +kernel
  have he : ["addi", "q0", "q0", "-2048"] ∈ [["lui", "q0", "0"], ["addi", "q0", "q0", "-2048"]] :=
    List.mem_cons_of_mem _ List.mem_cons_self
  obtain ⟨-, hbase, hcomplete, hload⟩ := expand_wellFormed h
  exact ⟨h, hp, hm, hl, (hbase _ he).1, (hcomplete hp _ he).1, hload _ _ _ rfl hm hl _ he⟩

end RiscvAssembler
