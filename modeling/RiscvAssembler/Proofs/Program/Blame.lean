import RiscvAssembler.Proofs.Program.FirstFault
import RiscvAssembler.Proofs.Program.OperandTable
import RiscvAssembler.Proofs.Token.Spacing

/-!
# What a message blames

A message about a name ends in that name: the mnemonic, the register, the immediate or the label
that means nothing. Of a pseudo-instruction the base instruction is encoded, which has operands that
nobody wrote. They are registers and literals in the places where these are read, and so the name
blamed is one of the tokens of the line. There is one exception. The long form of a register jump
puts the offset `0` after its operand, and an operand that is no register is then read as the
offset, and the `0` as the register.

## Main definitions

* `Report.BlamesToken`: the message ends in a token of the line that the report is about.
* `Refusal`: what an instruction may be refused for.
* `Traceable`: this is among the given tokens.
* `IsStrayJump`: a register jump with one operand, which is no register.

## Main results

* `refusal_of_assembleInstruction`: an instruction fails in no other way.
* `Traceable.culprit_mem`: what a traceable instruction is refused for.
* `ExpandsTo.traceable`: the base instructions of a line can be traced back to it.
* `Session.blamesToken_iff`: the reports that blame a token.
-/

namespace RiscvAssembler

open Text

/-! ### Names in messages -/

/-- What a message of the family says in front of the name to blame, if it ends in a name. -/
def Family.lead? : Family → Option String
  | .unknownMnemonic => some "Unknown instruction: "
  | .unknownRegister => some "Invalid register name: "
  | .immediateParsing => some "Invalid immediate value: "
  | .undefinedLabel => some "Undefined label: "
  | _ => none

/-- The name that a fault blames. -/
def Fault.culprit? : Fault → Option String
  | .unknownMnemonic name | .unknownRegister name | .malformedImmediate name
  | .undefinedLabel name => some name
  | _ => none

/-- The message of a fault ends in the name that it blames. -/
theorem Fault.exists_lead {fault : Fault} {name : String} (h : fault.culprit? = some name) :
    ∃ lead, fault.family.lead? = some lead ∧ fault.message = lead ++ name := by
  cases fault <;> cases h
  all_goals exact ⟨_, rfl, rfl⟩

/-- The message of the report ends in a token of the line that the report is about. -/
def Report.BlamesToken (report : Report) (lines : List String) : Prop :=
  ∃ n line lead name, lines[n]? = some line ∧ report.lineNumber = some (n + 1 : Nat) ∧
    report.family.lead? = some lead ∧ report.message = lead ++ name ∧ name ∈ tokenize line

/-- A token is blamed if the name in the fault is one. -/
theorem Report.blamesToken_ofLine_iff {lines : List String} {n : Nat} {line name : String}
    {fault : Fault} (hline : lines[n]? = some line) (hname : fault.culprit? = some name) :
    (ofLine fault (n + 1) line).BlamesToken lines ↔ name ∈ tokenize line := by
  obtain ⟨lead, hlead, hmessage⟩ := Fault.exists_lead hname
  constructor
  · rintro ⟨k, other, lead', name', hother, hnumber, hlead', hmessage', hmem⟩
    obtain rfl : n = k := by
      have hcast : (some ((n + 1 : Nat) : Int)) = some ((k + 1 : Nat) : Int) := hnumber
      simpa using hcast
    obtain rfl : line = other := Option.some.inj (hline.symm.trans hother)
    obtain rfl : lead = lead' := Option.some.inj (hlead.symm.trans hlead')
    have happend : lead ++ name = lead ++ name' := hmessage.symm.trans hmessage'
    rwa [(String.append_right_inj lead).mp happend]
  · intro hmem
    exact ⟨n, line, lead, name, hline, rfl, hlead, hmessage, hmem⟩

/-! ### What an instruction is refused for -/

/-- The token has a value in the role, whatever the labels are. -/
def Role.accepts : Role → String → Bool
  | .imm => isLiteral
  | .rd | .rs1 | .rs2 => Register.isValid

section

variable {t : InstructionTable} {labels : SymbolTable} {pc : Int} {f : Format} {fault : Fault}
  {tokens given : List String}

theorem Register.resolve_eq_error {name : String} :
    resolve name = .error fault ↔ isValid name = false ∧ fault = .unknownRegister name := by
  rw [resolve, isValid]
  cases find? name with
  | none => simp [eq_comm]
  | some n => simp

/-- **A token without a value** is not accepted in its role, and is to blame. -/
theorem Role.culprit_of_resolve {role : Role} {token : String} (hblank : Unblanked token)
    (h : role.resolve labels pc f token = .error fault) :
    role.accepts token = false ∧ fault.culprit? = some token := by
  cases role with
  | rd | rs1 | rs2 =>
    have hresolve : Register.resolve token = .error fault := h
    obtain ⟨hvalid, rfl⟩ := Register.resolve_eq_error.mp hresolve
    exact ⟨hvalid, rfl⟩
  | imm =>
    rw [Role.resolve, resolveImmediate, hblank.trim_eq] at h
    cases hparse : parseImmediate token with
    | ok n =>
      rw [hparse] at h
      cases h
    | error cause =>
      rw [hparse] at h
      refine ⟨by rw [accepts, isLiteral, hparse]; rfl, ?_⟩
      dsimp only at h
      split at h
      · split at h <;> cases h
        rfl
      · cases h
        rfl

/-- Operands that cannot be read have one without a value among them. -/
theorem exists_of_operandValues_eq_error {l : OperandLayout}
    (h : operandValues l tokens labels pc f = .error fault) :
    ∃ role n, l.position role = some n ∧
      role.resolve labels pc f (tokens.getD n "") = .error fault := by
  have hat : ∀ role : Role,
      operandAt tokens (l.position role) (role.resolve labels pc f) = .error fault →
        ∃ n, l.position role = some n ∧
          role.resolve labels pc f (tokens.getD n "") = .error fault := by
    intro role hrole
    cases hposition : l.position role with
    | none =>
      rw [hposition] at hrole
      cases hrole
    | some n =>
      rw [hposition] at hrole
      exact ⟨n, rfl, hrole⟩
  rcases bind_eq_error.mp h with hrd | ⟨_, -, h⟩
  · exact ⟨.rd, hat .rd hrd⟩
  rcases bind_eq_error.mp h with hrs1 | ⟨_, -, h⟩
  · exact ⟨.rs1, hat .rs1 hrs1⟩
  rcases bind_eq_error.mp h with hrs2 | ⟨_, -, h⟩
  · exact ⟨.rs2, hat .rs2 hrs2⟩
  rcases bind_eq_error.mp h with himm | ⟨_, -, h⟩
  · exact ⟨.imm, hat .imm himm⟩
  · cases h

/-- What an instruction with the given tokens may be refused for: its mnemonic, the number of its
operands, one of them, or an immediate that its field does not hold. -/
inductive Refusal (t : InstructionTable) (labels : SymbolTable) (pc : Int) (tokens : List String) :
    Fault → Prop
  | mnemonic (h : t.find? (tokens.headD "") = none) :
      Refusal t labels pc tokens (.unknownMnemonic (tokens.headD ""))
  | count {i : Instruction} (hi : t.find? (tokens.headD "") = some i)
      (h : tokens.length ≠ (i.layout tokens).operandCount + 1) :
      Refusal t labels pc tokens
        (.operandCount (tokens.headD "") (i.layout tokens).operandCount (tokens.length - 1))
  | operand {i : Instruction} {role : Role} {n : Nat} {fault : Fault}
      (hi : t.find? (tokens.headD "") = some i)
      (hlength : tokens.length = (i.layout tokens).operandCount + 1)
      (hposition : (i.layout tokens).position role = some n)
      (h : role.resolve labels pc i.format (tokens.getD n "") = .error fault) :
      Refusal t labels pc tokens fault
  | immediate {i : Instruction} {o : Operands} {fault : Fault}
      (hi : t.find? (tokens.headD "") = some i)
      (ho : readOperands i tokens labels pc = .ok o) (h : i.checkImmediate o.imm = .error fault) :
      Refusal t labels pc tokens fault

/-- **An instruction is refused** for one of these, and fails in no other way. -/
theorem refusal_of_assembleInstruction (ht : t.Accepted) (hne : tokens ≠ [])
    {failure : Failure Fault} (h : assembleInstruction t labels pc tokens = .error failure) :
    ∃ fault, failure = .fault fault ∧ Refusal t labels pc tokens fault := by
  rcases (assembleInstruction_eq_error hne).mp h with
    ⟨hfind, rfl⟩ | ⟨i, hfind, ⟨fault, hread, rfl⟩ | ⟨o, ho, hencode⟩⟩
  · exact ⟨_, rfl, .mnemonic hfind⟩
  · refine ⟨fault, rfl, ?_⟩
    rw [readOperands] at hread
    split at hread
    · rename_i hlength
      obtain ⟨role, n, hposition, hresolve⟩ := exists_of_operandValues_eq_error hread
      exact .operand hfind hlength hposition hresolve
    · rename_i hlength
      cases hread
      exact .count hfind hlength
  · have hwell := ht.wellFormed _ (InstructionTable.mem_of_find? hfind)
    obtain ⟨fault, hcheck, rfl⟩ := hwell.exists_of_encode_eq_error hencode
    exact ⟨fault, rfl, .immediate hfind ho hcheck⟩

/-- **What an instruction is refused for**, if its message ends in a name: its mnemonic, which the
table does not have, or an operand that is not accepted where it stands. -/
theorem culprit_of_assembleInstruction (ht : t.Accepted) (hi : IsInstruction tokens)
    (h : assembleInstruction t labels pc tokens = .error (.fault fault))
    (hlead : fault.family.lead?.isSome = true) :
    t.find? (tokens.headD "") = none ∧ fault.culprit? = some (tokens.headD "") ∨
      ∃ i role n, t.find? (tokens.headD "") = some i ∧
        (i.layout tokens).position role = some n ∧ n < tokens.length ∧
          role.accepts (tokens.getD n "") = false ∧
            fault.culprit? = some (tokens.getD n "") := by
  obtain ⟨_, heq, hrefusal⟩ := refusal_of_assembleInstruction ht hi.ne_nil h
  obtain rfl := Failure.fault.inj heq
  cases hrefusal with
  | mnemonic hfind => exact .inl ⟨hfind, rfl⟩
  | count => cases hlead
  | @operand i role n _ hfind hlength hposition hresolve =>
    have hn := i.bounds_of_mem_positions _ n (OperandLayout.mem_positions hposition)
    have hlt : n < tokens.length := by omega
    obtain ⟨haccepts, hculprit⟩ :=
      Role.culprit_of_resolve (unblanked_getD hi.unblanked n) hresolve
    exact .inr ⟨i, role, n, hfind, hposition, hlt, haccepts, hculprit⟩
  | immediate _ _ hcheck =>
    -- the test of the immediate has no name to blame
    rw [Instruction.family_of_checkImmediate hcheck] at hlead
    cases hlead

/-- What an instruction may be refused for is among the tokens `given`: its mnemonic is one of them,
or known, and an operand is one of them, or accepted where it stands. -/
structure Traceable (t : InstructionTable) (given tokens : List String) : Prop where
  mnemonic : tokens.headD "" ∈ given ∨ (t.find? (tokens.headD "")).isSome = true
  operand : ∀ i, t.find? (tokens.headD "") = some i → ∀ role n,
    (i.layout tokens).position role = some n → n < tokens.length →
      tokens.getD n "" ∈ given ∨ role.accepts (tokens.getD n "") = true

/-- **A traceable instruction** is refused for one of the given tokens. -/
theorem Traceable.culprit_mem (htrace : Traceable t given tokens) (ht : t.Accepted)
    (hi : IsInstruction tokens)
    (h : assembleInstruction t labels pc tokens = .error (.fault fault))
    (hlead : fault.family.lead?.isSome = true) :
    ∃ name ∈ given, fault.culprit? = some name := by
  rcases culprit_of_assembleInstruction ht hi h hlead with
    ⟨hfind, hculprit⟩ | ⟨i, role, n, hfind, hposition, hlt, haccepts, hculprit⟩
  · rcases htrace.mnemonic with hmem | hsome
    · exact ⟨_, hmem, hculprit⟩
    · rw [hfind] at hsome
      cases hsome
  · rcases htrace.operand i hfind role n hposition hlt with hmem | haccepted
    · exact ⟨_, hmem, hculprit⟩
    · rw [haccepts] at haccepted
      cases haccepted

end

/-! ### Operands that are brought in -/

/-- The roles of operands. -/
def Role.all : List Role := [.rd, .rs1, .rs2, .imm]

theorem Role.mem_all (role : Role) : role ∈ all := by
  cases role <;> decide

namespace Pseudo

open InstructionTable

/-- **The texts of a template are accepted** where they stand. This does not hold of register jumps
by themselves, where it depends on the operand what stands where. -/
theorem accepts_of_mem_templates : ∀ p ∈ templates ++ shortForms, p.2.mnemonic ≠ "jalr" →
    ∃ i ∈ rv32i.find? p.2.mnemonic, i.opcode ≠ Opcode.jumpRegister ∧ ∀ role ∈ Role.all,
      ∀ n ∈ (i.layout []).position role, ∃ slot ∈ p.2.slot? n,
        ∀ text ∈ slot.text?, role.accepts text = true := by
  decide +kernel

/-- **The templates of register jumps**: the return, and a jump to an operand. -/
theorem slots_of_mem_templates : ∀ p ∈ templates ++ shortForms, p.2.mnemonic = "jalr" →
    ∃ rd ∈ ["x0", "ra"], p.2.slots = [.fixed rd, .fixed "ra", .fixed "0"] ∨
      p.1 ∈ ["jr", "jalr"] ∧ p.2.arity = 1 ∧
        p.2.slots = [.fixed rd, .operand 0, .fixed "0"] := by
  decide +kernel

end Pseudo

section

variable {rd base : String} {given : List String}

theorem opcode_of_find?_jalr {i : Instruction} (h : InstructionTable.rv32i.find? "jalr" = some i) :
    i.opcode = Opcode.jumpRegister := by
  have hlower : lowercase "jalr" = "jalr" := by decide
  rw [InstructionTable.find?, hlower] at h
  exact InstructionTable.opcode_jumpRegister i h

/-- **A jump to a register** can be traced back. -/
theorem traceable_jumpRegister (hrd : Register.isValid rd = true)
    (hbase : Register.isValid base = true) : Traceable .rv32i given ["jalr", rd, base, "0"] := by
  have hknown : (InstructionTable.rv32i.find? "jalr").isSome = true := rfl
  have hzero : isLiteral "0" = true := by decide
  refine ⟨.inr hknown, fun i hi role n hn _ => .inr ?_⟩
  rw [Instruction.layout_of_jumpRegister (opcode_of_find?_jalr hi), if_pos hbase] at hn
  cases role with
  | rd => cases hn; exact hrd
  | rs1 => cases hn; exact hbase
  | rs2 => cases hn
  | imm => cases hn; exact hzero

/-- A jump to an operand that is no register is refused for its offset. -/
theorem assembleInstruction_of_not_isValid (hrd : Register.isValid rd = true)
    (hbase : Register.isValid base = false) (labels : SymbolTable) (pc : Int) :
    assembleInstruction .rv32i labels pc ["jalr", rd, base, "0"]
      = .error (.fault (.unknownRegister "0")) := by
  obtain ⟨i, hi⟩ : ∃ i, InstructionTable.rv32i.find? "jalr" = some i := ⟨_, rfl⟩
  obtain ⟨n, hn⟩ := Register.exists_resolve_of_isValid hrd
  have hzero : Register.resolve "0" = .error (.unknownRegister "0") := by decide
  have hlayout : OperandLayout.ofTokens ["jalr", rd, base, "0"] i.opcode i.format = .memory := by
    have h := Instruction.layout_of_jumpRegister (opcode_of_find?_jalr hi) "jalr" rd base "0"
    rwa [hbase] at h
  have hvalues : operandValues .memory ["jalr", rd, base, "0"] labels pc i.format
      = .error (.unknownRegister "0") := by
    simp only [operandValues, OperandLayout.memory, operandAt, List.getD_cons_succ,
      List.getD_cons_zero, hn, hzero]
    rfl
  have hread : readOperands i ["jalr", rd, base, "0"] labels pc
      = .error (.unknownRegister "0") := by
    rw [readOperands, hlayout, hvalues]
    exact if_pos rfl
  exact assembleInstruction_of_readOperands_eq_error (List.cons_ne_nil _ _) hi hread

end

/-! ### Lines -/

/-- The tokens jump to the address in a register, and their only operand is no register. -/
def IsStrayJump (tokens : List String) : Prop :=
  ∃ mnemonic operand, tokens = [mnemonic, operand] ∧ lowercase mnemonic ∈ ["jr", "jalr"] ∧
    Register.isValid operand = false

section

variable {given : List String} {instructions : List (List String)}

/-- An instruction with a register, another one and a number can be traced back if the registers
can. -/
theorem traceable_addi {rd rs imm : String} (hrd : rd ∈ given)
    (hrs : rs ∈ given ∨ Register.isValid rs = true)
    (himm : imm ∈ given ∨ isLiteral imm = true) :
    Traceable .rv32i given ["addi", rd, rs, imm] := by
  have hknown : (InstructionTable.rv32i.find? "addi").isSome = true := rfl
  refine ⟨.inr hknown, fun i hi role n hn _ => ?_⟩
  obtain rfl := Option.some.inj (find?_addi.symm.trans hi)
  cases role with
  | rd => cases hn; exact .inl hrd
  | rs1 => cases hn; exact hrs
  | rs2 => cases hn
  | imm => cases hn; exact himm

theorem traceable_lui {rd imm : String} (hrd : rd ∈ given) (himm : isLiteral imm = true) :
    Traceable .rv32i given ["lui", rd, imm] := by
  have hknown : (InstructionTable.rv32i.find? "lui").isSome = true := rfl
  refine ⟨.inr hknown, fun i hi role n hn _ => ?_⟩
  obtain rfl := Option.some.inj (find?_lui.symm.trans hi)
  cases role with
  | rd => cases hn; exact .inl hrd
  | rs1 => cases hn
  | rs2 => cases hn
  | imm => cases hn; exact .inr himm

/-- An instruction can be traced back to itself. -/
theorem traceable_self (hne : given ≠ []) : Traceable .rv32i given given := by
  obtain ⟨mnemonic, operands, rfl⟩ := List.exists_cons_of_ne_nil hne
  refine ⟨.inl List.mem_cons_self, fun i hi role n hn hlt => .inl ?_⟩
  rw [List.getD_eq_getElem?_getD, List.getElem?_eq_getElem hlt, Option.getD_some]
  exact List.getElem_mem hlt

/-- What stands for a pseudo-instruction can be traced back to it, unless it jumps to an operand
that is no register. -/
theorem traceable_fill {mnemonic name : String} {operands : List String} {t : Pseudo.Template}
    (hp : Pseudo.find? (lowercase mnemonic) operands.length = some (.template name t))
    (hlength : operands.length = t.arity)
    (hstray : ¬ IsStrayJump (mnemonic :: operands)) :
    Traceable .rv32i (mnemonic :: operands) (t.fill operands) := by
  have ht := Pseudo.mem_of_find? hp
  by_cases hjalr : t.mnemonic = "jalr"
  · obtain ⟨rd, hrd, hslots⟩ := Pseudo.slots_of_mem_templates _ ht hjalr
    have hregisters : ∀ rd ∈ ["x0", "ra"], Register.isValid rd = true := by decide
    have hra : Register.isValid "ra" = true := hregisters "ra" (by simp)
    rcases hslots with hslots | ⟨hname, harity, hslots⟩ <;> dsimp only at hslots
    · have hfill : t.fill operands = ["jalr", rd, "ra", "0"] := by
        rw [Pseudo.Template.fill, hslots, hjalr]
        rfl
      rw [hfill]
      exact traceable_jumpRegister (hregisters rd hrd) hra
    · obtain ⟨operand, rfl⟩ := List.length_eq_one_iff.mp (hlength.trans harity)
      have hfill : t.fill [operand] = ["jalr", rd, operand, "0"] := by
        rw [Pseudo.Template.fill, hslots, hjalr]
        rfl
      rw [hfill]
      obtain ⟨rfl, -⟩ := Pseudo.mem_of_find?_template hp
      refine traceable_jumpRegister (hregisters rd hrd) ?_
      by_contra hinvalid
      exact hstray ⟨mnemonic, operand, rfl, hname, Bool.of_not_eq_true hinvalid⟩
  · obtain ⟨i, hi, hopcode, haccepts⟩ := Pseudo.accepts_of_mem_templates _ ht hjalr
    have hfind : InstructionTable.rv32i.find? t.mnemonic = some i := hi
    refine ⟨.inr (Option.isSome_iff_exists.mpr ⟨i, hfind⟩), fun j hj role n hn _ => ?_⟩
    obtain rfl : i = j := Option.some.inj (hfind.symm.trans hj)
    rw [i.layout_of_ne hopcode _ []] at hn
    obtain ⟨slot, hslot, htext⟩ := haccepts role role.mem_all n hn
    rw [Pseudo.Template.getD_fill hslot]
    cases slot with
    | fixed text => exact .inr (htext text rfl)
    | operand position =>
      have hmem : Pseudo.Slot.operand position ∈ t.slots := by
        rcases List.mem_cons.mp (List.mem_of_getElem? hslot) with heq | hmem
        · cases heq
        · exact hmem
      exact .inl (List.mem_cons_of_mem _ (Pseudo.fill_mem ht hlength hmem))

/-- **The base instructions of a line can be traced back to it**, unless it jumps to an operand that
is no register. -/
theorem ExpandsTo.traceable (h : ExpandsTo given instructions) (hi : IsInstruction given)
    (hstray : ¬ IsStrayJump given) :
    ∀ tokens ∈ instructions, Traceable .rv32i given tokens := by
  have hzero : Register.isValid "x0" = true := by decide
  cases h with
  | itself => exact List.forall_mem_singleton.mpr (traceable_self hi.ne_nil)
  | template hp hlength => exact List.forall_mem_singleton.mpr (traceable_fill hp hlength hstray)
  | @address mnemonic rd operand =>
    have hoperand : trim operand = operand := (hi.unblanked operand (by simp)).trim_eq
    rw [hoperand]
    exact List.forall_mem_singleton.mpr
      (traceable_addi (by simp) (.inr hzero) (.inl (by simp)))
  | @constant mnemonic rd operand value =>
    intro tokens htokens
    have hliteral : ∀ n, isLiteral (decimal n) = true := fun n => by
      rw [isLiteral, parseImmediate_decimal]
      rfl
    rcases Pseudo.mem_loadConstant htokens with ⟨n, -, rfl⟩ | ⟨rs, hrs, n, -, rfl⟩
    · exact traceable_lui (by simp) (hliteral n)
    · refine traceable_addi (by simp) ?_ (.inr (hliteral n))
      rcases List.mem_pair.mp hrs with rfl | rfl
      · exact .inr hzero
      · exact .inl (by simp)

/-- A stray jump has its operand before the offset, too. -/
theorem IsStrayJump.exists_expand_eq (h : IsStrayJump given) :
    ∃ rd operand, Register.isValid rd = true ∧ Register.isValid operand = false ∧
      expand given = .ok [["jalr", rd, operand, "0"]] := by
  obtain ⟨mnemonic, operand, rfl, hm, hoperand⟩ := h
  rcases List.mem_pair.mp hm with hm | hm
  · refine ⟨"x0", operand, by decide, hoperand, ?_⟩
    rw [expand, Pseudo.ofTokens?, hm]
    rfl
  · refine ⟨"ra", operand, by decide, hoperand, ?_⟩
    rw [expand, Pseudo.ofTokens?, hm]
    rfl

end

section

variable {lines : List String} {line text : String} {fault : Fault}

theorem parseImmediate_eq_error (htoken : IsToken text) (h : parseImmediate text = .error fault) :
    fault = .malformedImmediate text := by
  have hblank := htoken.undelimited.unblanked
  rw [parseImmediate, trimChars_eq hblank, hblank.trim_eq] at h
  split at h
  · exact absurd ‹_› htoken.ne_nil
  · split at h <;> cases h
    rfl

theorem Pseudo.lead?_of_checkCount {name : String} {operands : List String} {required : Nat}
    (h : checkCount name operands required = .error fault) : fault.family.lead? = none := by
  rw [checkCount] at h
  split at h <;> cases h
  rfl

/-- A constant is refused for what is written for it. -/
theorem Pseudo.culprit_of_expandLoad {rd : String} (htoken : IsToken text)
    (h : expandLoad rd text = .error fault) (hlead : fault.family.lead?.isSome = true) :
    fault.culprit? = some text := by
  rw [expandLoad, htoken.undelimited.unblanked.trim_eq] at h
  split at h
  · cases h
  split at h
  · rename_i hparse
    cases h
    rw [parseImmediate_eq_error htoken hparse]
    rfl
  · split at h <;> cases h
    cases hlead

/-- Tokens without an expansion have one to blame among them, if a name is to blame at all. -/
theorem culprit_of_expand {tokens : List String} (htokens : ∀ token ∈ tokens, IsToken token)
    (h : expand tokens = .error fault) (hlead : fault.family.lead?.isSome = true) :
    ∃ name ∈ tokens, fault.culprit? = some name := by
  rw [expand] at h
  cases hp : Pseudo.ofTokens? tokens with
  | none =>
    rw [hp] at h
    cases h
  | some p =>
    rw [hp] at h
    cases p with
    | loadImmediate =>
      rcases bind_eq_error.mp h with hcount | ⟨_, hcount, h⟩
      · rw [Pseudo.lead?_of_checkCount hcount] at hlead
        cases hlead
      · obtain ⟨rd, operand, htail⟩ := List.length_eq_two.mp (Pseudo.length_of_checkCount hcount)
        rw [htail] at h
        have hmem : operand ∈ tokens := List.mem_of_mem_tail (by simp [htail])
        exact ⟨operand, hmem, Pseudo.culprit_of_expandLoad (htokens _ hmem) h hlead⟩
    | template name t =>
      rcases bind_eq_error.mp h with hcount | ⟨_, -, h⟩
      · rw [Pseudo.lead?_of_checkCount hcount] at hlead
        cases hlead
      · cases h

/-- **A line that the first pass refuses** has a token to blame, if a name is to blame at all. It is
no stray jump, which has an expansion. -/
theorem culprit_of_lineFault? {known : List String} (h : lineFault? known line = some fault)
    (hlead : fault.family.lead?.isSome = true) :
    ¬ IsStrayJump (stripLabel (tokenize line)) ∧
      ∃ name ∈ tokenize line, fault.culprit? = some name := by
  have hexpand : expand (stripLabel (tokenize line)) = .error fault := by
    rcases Option.or_eq_some_iff.mp h with h | ⟨-, h⟩
    · rw [duplicateFault?] at h
      split at h
      · split at h <;> cases h
        cases hlead
      · cases h
    rcases Option.or_eq_some_iff.mp h with h | ⟨-, h⟩
    · rw [tokenCountFault?] at h
      split at h <;> cases h
      cases hlead
    · rw [expansionFault?] at h
      split at h
      · cases h
      · rename_i hexpand
        rwa [Option.some.inj h] at hexpand
  constructor
  · intro hstray
    obtain ⟨_, _, -, -, hok⟩ := hstray.exists_expand_eq
    rw [hok] at hexpand
    cases hexpand
  · have htokens : ∀ token ∈ stripLabel (tokenize line), IsToken token := fun token htoken =>
      isToken_of_mem_tokenize (mem_of_mem_stripLabel htoken)
    obtain ⟨name, hname, hculprit⟩ := culprit_of_expand htokens hexpand hlead
    exact ⟨name, mem_of_mem_stripLabel hname, hculprit⟩

/-- The instructions of a program stand in the expansions of its lines. -/
theorem Placement.exists_expand_eq {p : Placement} (hp : p ∈ placements lines) :
    IsInstruction (stripLabel (tokenize p.line)) ∧
      ∃ instructions, expand (stripLabel (tokenize p.line)) = .ok instructions ∧
        p.tokens ∈ instructions := by
  obtain ⟨_, _, -, htokens, -, -⟩ := mem_placements.mp hp
  have hmem := List.mem_of_getElem? htokens
  rw [lineInstructions, lineExpansion] at hmem
  split at hmem
  · cases hmem
  · rename_i hne
    refine ⟨⟨hne, fun token htoken => ?_⟩, ?_⟩
    · exact unblanked_of_mem_tokenize (mem_of_mem_stripLabel htoken)
    · cases hexpand : expand (stripLabel (tokenize p.line)) with
      | error fault =>
        rw [hexpand] at hmem
        cases hmem
      | ok instructions =>
        rw [hexpand] at hmem
        exact ⟨instructions, rfl, hmem⟩

/-- **An instruction that the second pass refuses** has a token of its line to blame, if a name is
to blame at all, except that a stray jump is refused for its offset. -/
theorem Placement.culprit_of_refused {p : Placement} (hp : p ∈ placements lines)
    {labels : SymbolTable}
    (h : assembleInstruction .rv32i labels p.address p.tokens = .error (.fault fault))
    (hlead : fault.family.lead?.isSome = true) :
    (¬ IsStrayJump (stripLabel (tokenize p.line)) →
      ∃ name ∈ tokenize p.line, fault.culprit? = some name) ∧
    (IsStrayJump (stripLabel (tokenize p.line)) → fault = .unknownRegister "0") := by
  obtain ⟨hi, instructions, hexpand, hmem⟩ := Placement.exists_expand_eq hp
  constructor
  · intro hstray
    have htrace := (expandsTo_of_eq_ok hexpand).traceable hi hstray p.tokens hmem
    obtain ⟨name, hname, hculprit⟩ :=
      htrace.culprit_mem .builtIn (Placement.isInstruction hp) h hlead
    exact ⟨name, mem_of_mem_stripLabel hname, hculprit⟩
  · intro hstray
    obtain ⟨rd, operand, hrd, hoperand, hok⟩ := hstray.exists_expand_eq
    rw [Except.ok.inj (hexpand.symm.trans hok), List.mem_singleton] at hmem
    rw [hmem, assembleInstruction_of_not_isValid hrd hoperand] at h
    cases h
    rfl

end

/-! ### Programs -/

namespace Session

variable {s : Session} {text : String} {report : Report}

/-- **Which reports blame a token.** A program that is refused for a name has this name among the
tokens of the line that is reported, unless this line is a register jump whose only operand is no
register. The offset that the jump gets is blamed then, and it is a token of the line only if a `0`
was written there. -/
theorem blamesToken_iff (hs : s.table = .rv32i)
    (h : (s.assemble text).result = .error (.fault report))
    (hlead : report.family.lead?.isSome = true) :
    ∃ n line, (lines text)[n]? = some line ∧ report.lineNumber = some (n + 1 : Nat) ∧
      (report.BlamesToken (lines text) ↔
        (IsStrayJump (stripLabel (tokenize line)) → "0" ∈ tokenize line)) ∧
      (IsStrayJump (stripLabel (tokenize line)) →
        report.message = "Invalid register name: 0") := by
  have ht : s.table.Accepted := hs ▸ .builtIn
  by_cases hfaults : ∃ n, faultAt? (lines text) n ≠ none
  · obtain ⟨n, line, fault, hfirst⟩ := exists_isFirstFault hfaults
    rw [assemble_of_isFirstFault hfirst] at h
    cases h
    obtain ⟨known, hfault⟩ : ∃ known, lineFault? known line = some fault := by
      have hfault := hfirst.fault
      rw [faultAt?, faultAfter?, hfirst.line] at hfault
      exact ⟨_, hfault⟩
    obtain ⟨hstray, name, hname, hculprit⟩ := culprit_of_lineFault? hfault hlead
    refine ⟨n, line, hfirst.line, rfl, ?_, fun h => absurd h hstray⟩
    rw [Report.blamesToken_ofLine_iff hfirst.line hculprit]
    exact iff_of_true hname fun h => absurd h hstray
  · obtain ⟨table, htable⟩ : ∃ table, (collect (lines text)).outcome = .ok table :=
      exists_collectFrom_eq_ok fun n => not_not.mp (not_exists.mp hfaults n)
    obtain ⟨p, fault, hrefused, heq⟩ :=
      exists_isFirstRefused ht (collect_eq_ok.mp htable).1 h
    cases heq
    obtain ⟨front, rest, hsplit, -, hfault⟩ := hrefused
    have hp : p ∈ placements (lines text) := by
      rw [hsplit]
      exact List.mem_append_right _ List.mem_cons_self
    obtain ⟨n, _, hline, -, -, hnumber⟩ := mem_placements.mp hp
    rw [hs] at hfault
    obtain ⟨hmem, hzero⟩ := Placement.culprit_of_refused hp hfault hlead
    rw [hnumber]
    refine ⟨n, p.line, hline, rfl, ?_, fun hstray => by rw [hzero hstray]; rfl⟩
    by_cases hstray : IsStrayJump (stripLabel (tokenize p.line))
    · obtain rfl := hzero hstray
      have hculprit : (Fault.unknownRegister "0").culprit? = some "0" := rfl
      rw [Report.blamesToken_ofLine_iff hline hculprit]
      exact ⟨fun h _ => h, fun h => h hstray⟩
    · obtain ⟨name, hname, hculprit⟩ := hmem hstray
      rw [Report.blamesToken_ofLine_iff hline hculprit]
      exact iff_of_true hname fun h => absurd h hstray

/-- A branch to a label that is not there: what the branch compares with was not written, and is
not blamed. -/
def astrayProgram : String :=
  "again: li t0, 70000\nbeqz t0, agian # twice"

theorem blamesToken_astrayProgram :
    (start none false).table = .rv32i ∧
      ((start none false).assemble astrayProgram).result
        = .error (.fault (.ofLine (.undefinedLabel "agian") 2 "beqz t0, agian # twice")) ∧
      (Report.ofLine (.undefinedLabel "agian") 2 "beqz t0, agian # twice").family.lead?.isSome
        = true ∧
      (Report.ofLine (.undefinedLabel "agian") 2 "beqz t0, agian # twice").BlamesToken
        (lines astrayProgram) := by
  have hresult : ((start none false).assemble astrayProgram).result
      = .error (.fault (.ofLine (.undefinedLabel "agian") 2 "beqz t0, agian # twice")) := by
    decide +kernel
  obtain ⟨n, line, hline, hnumber, hblames, -⟩ := blamesToken_iff rfl hresult rfl
  have hn : n = 1 := by
    have hcast : some (2 : Int) = some ((n + 1 : Nat) : Int) := hnumber
    simp only [Option.some.injEq] at hcast
    omega
  have hlines : lines astrayProgram = ["again: li t0, 70000", "beqz t0, agian # twice"] := by
    decide +kernel
  rw [hn, hlines] at hline
  have htokens : stripLabel (tokenize line) = ["beqz", "t0", "agian"] := by
    rw [← Option.some.inj hline]
    decide +kernel
  refine ⟨rfl, hresult, rfl, hblames.mpr fun hstray => ?_⟩
  obtain ⟨mnemonic, operand, htwo, -⟩ := hstray
  cases htokens.symm.trans htwo

/-- A jump to what is no register blames a register that nobody has written. -/
theorem not_blamesToken_jump :
    ((start none false).assemble "jr foo").result
        = .error (.fault (.ofLine (.unknownRegister "0") 1 "jr foo")) ∧
      (Report.ofLine (.unknownRegister "0") 1 "jr foo").family.lead?.isSome = true ∧
      ¬ (Report.ofLine (.unknownRegister "0") 1 "jr foo").BlamesToken (lines "jr foo") := by
  have hculprit : (Fault.unknownRegister "0").culprit? = some "0" := rfl
  have hline : (lines "jr foo")[0]? = some "jr foo" := by decide +kernel
  refine ⟨by decide +kernel, rfl, ?_⟩
  rw [Report.blamesToken_ofLine_iff hline hculprit]
  decide +kernel

end Session

end RiscvAssembler
