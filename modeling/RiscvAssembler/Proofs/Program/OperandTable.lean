import RiscvAssembler.Proofs.Program.Operands
import RiscvAssembler.Proofs.Program.Reassembly
import RiscvAssembler.Proofs.Token.Spacing

/-!
# The operand table of RV32I

The instructions of RV32I fall into nine families. Those of one family have as many operands, in the
same places, and room for the same immediates. Such a table says all there is to say about a single
instruction: it is assembled exactly if its tokens are what a row of the table asks for, and its
word has the operands that were read.

The address register of a register jump stands before the offset or behind it. An offset that has
not the name of a register cannot be taken for it, so both ways of writing mean the same.

## Main definitions

* `OperandFamily`: the rows of the table, with `mnemonics`, `format`, `layout` and `HasRoom`.
* `OperandFamily.Reads`: the tokens are an instruction of the family with the given operands.
* `OperandFamily.Shows`: a decoded word has the given operands, and no others.

## Main results

* `Instruction.BelongsTo.reads_iff`: reading the operands of an instruction, by its family.
* `InstructionTable.assembleInstruction_iff_reads`: the instructions that are assembled.
-/

namespace RiscvAssembler

open Text

/-- The families of instructions of RV32I. -/
inductive OperandFamily
  | registers
  | immediate
  | shift
  | load
  | jumpRegister
  | store
  | branch
  | upper
  | jump
  deriving DecidableEq, Repr

namespace OperandFamily

/-- All families. -/
def all : List OperandFamily :=
  [registers, immediate, shift, load, jumpRegister, store, branch, upper, jump]

theorem mem_all (f : OperandFamily) : f ∈ all := by
  cases f <;> decide

/-- The mnemonics of the instructions of a family. -/
def mnemonics : OperandFamily → List String
  | registers => ["add", "sub", "sll", "slt", "sltu", "xor", "srl", "sra", "or", "and"]
  | immediate => ["addi", "slti", "sltiu", "xori", "ori", "andi"]
  | shift => ["slli", "srli", "srai"]
  | load => ["lb", "lh", "lw", "lbu", "lhu"]
  | jumpRegister => ["jalr"]
  | store => ["sb", "sh", "sw"]
  | branch => ["beq", "bne", "blt", "bge", "bltu", "bgeu"]
  | upper => ["lui", "auipc"]
  | jump => ["jal"]

/-- The format of the words of a family. -/
def format : OperandFamily → Format
  | registers => .R
  | immediate | shift | load | jumpRegister => .I
  | store => .S
  | branch => .B
  | upper => .U
  | jump => .J

/-- The number of tokens of an instruction, its mnemonic among them. -/
def tokenCount : OperandFamily → Nat
  | upper | jump => 3
  | registers | immediate | shift | load | jumpRegister | store | branch => 4

/-- Where the operands of a family stand. A register jump has its address register second if there
is the name of a register, and third otherwise. -/
def layout (f : OperandFamily) (tokens : List String) : OperandLayout :=
  match f with
  | registers => { rd := some 1, rs1 := some 2, rs2 := some 3 }
  | immediate | shift => { rd := some 1, rs1 := some 2, imm := some 3 }
  | load => { rd := some 1, imm := some 2, rs1 := some 3 }
  | jumpRegister =>
    if Register.isValid (tokens.getD 2 "") then { rd := some 1, rs1 := some 2, imm := some 3 }
    else { rd := some 1, imm := some 2, rs1 := some 3 }
  | store => { rs2 := some 1, imm := some 2, rs1 := some 3 }
  | branch => { rs1 := some 1, rs2 := some 2, imm := some 3 }
  | upper | jump => { rd := some 1, imm := some 2 }

/-- The immediates that the words of a family have room for. -/
def HasRoom (f : OperandFamily) (imm : Int) : Prop :=
  match f with
  | registers => True
  | immediate | load | jumpRegister | store => -2048 ≤ imm ∧ imm ≤ 2047
  | shift => 0 ≤ imm ∧ imm ≤ 31
  | branch => imm % 2 = 0 ∧ -4096 ≤ imm ∧ imm ≤ 4094
  | upper => -524288 ≤ imm ∧ imm ≤ 1048575
  | jump => imm % 2 = 0 ∧ -1048576 ≤ imm ∧ imm ≤ 1048574

/-- The tokens are an instruction of the family with the operands `o`. -/
structure Reads (f : OperandFamily) (tokens : List String) (labels : SymbolTable) (pc : Int)
    (o : Operands) : Prop where
  mnemonic : lowercase (tokens.headD "") ∈ f.mnemonics
  length : tokens.length = f.tokenCount
  /-- A register stands in each place for one, and a number or a label in that of the immediate. -/
  operand : ∀ role n, (f.layout tokens).position role = some n →
    role.resolve labels pc f.format (tokens.getD n "") = .ok (o.value role)
  absent : ∀ role, (f.layout tokens).position role = none → o.value role = 0
  hasRoom : f.HasRoom o.imm

/-- The immediate of a decoded word is the operand. The low five bits of it are a shift amount, and
an upper immediate has no sign. -/
def ShowsImmediate (f : OperandFamily) (imm : Int) (found : Option Int) : Prop :=
  match f with
  | registers => found = none
  | shift => ∃ n ∈ found, slice 0 5 n = imm
  | upper => found = some (imm % 2 ^ 20)
  | immediate | load | jumpRegister | store | branch | jump => found = some imm

/-- The decoded word is one of the instruction, with the operands `o` and no others. -/
structure Shows (f : OperandFamily) (tokens : List String) (d : Decoded) (o : Operands) :
    Prop where
  mnemonic : InstructionTable.rv32i.mnemonic? d = some (lowercase (tokens.headD ""))
  format : d.fields.format = f.format
  register : ∀ role, role ≠ .imm →
    d.fields.value? role = ((f.layout tokens).position role).map fun _ => o.value role
  immediate : f.ShowsImmediate o.imm d.fields.imm?

/-- The operands of a family are those that its format stores. -/
theorem isSome_position (f : OperandFamily) (tokens : List String) (role : Role) :
    ((f.layout tokens).position role).isSome = f.format.stores role := by
  cases f
  case jumpRegister =>
    rw [layout]
    split <;> cases role <;> rfl
  all_goals cases role <;> rfl

end OperandFamily

/-! ### The instructions of a family -/

/-- The opcode and the format of the instruction are those of the family. -/
structure Instruction.BelongsTo (i : Instruction) (f : OperandFamily) : Prop where
  format : i.format = f.format
  shift : i.format = .I → (i.funct7.isSome = true ↔ f = .shift)
  load : i.opcode = Opcode.load ↔ f = .load
  jumpRegister : i.opcode = Opcode.jumpRegister ↔ f = .jumpRegister
  store : i.opcode = Opcode.store ↔ f = .store
  branch : i.opcode = Opcode.branch ↔ f = .branch

instance (i : Instruction) (f : OperandFamily) : Decidable (i.BelongsTo f) :=
  decidable_of_iff (i.format = f.format ∧ (i.format = .I → (i.funct7.isSome = true ↔ f = .shift)) ∧
      (i.opcode = Opcode.load ↔ f = .load) ∧ (i.opcode = Opcode.jumpRegister ↔ f = .jumpRegister) ∧
      (i.opcode = Opcode.store ↔ f = .store) ∧ (i.opcode = Opcode.branch ↔ f = .branch))
    ⟨fun ⟨h₁, h₂, h₃, h₄, h₅, h₆⟩ => ⟨h₁, h₂, h₃, h₄, h₅, h₆⟩,
      fun ⟨h₁, h₂, h₃, h₄, h₅, h₆⟩ => ⟨h₁, h₂, h₃, h₄, h₅, h₆⟩⟩

namespace InstructionTable

/-- Every instruction of the table is in a family. -/
theorem exists_belongsTo :
    ∀ p ∈ rv32iInstructions, ∃ f ∈ OperandFamily.all, p.1 ∈ f.mnemonics ∧ p.2.BelongsTo f := by
  decide

/-- Every mnemonic of a family is that of an instruction. -/
theorem exists_lookup_of_mem_mnemonics : ∀ f ∈ OperandFamily.all, ∀ m ∈ f.mnemonics,
    ∃ i ∈ rv32iInstructions.lookup m, i.BelongsTo f := by
  decide

end InstructionTable

theorem operandAt_eq_ok {tokens : List String} {position : Option Nat}
    {read : String → Except Fault Int} {value : Int} :
    operandAt tokens position read = .ok value ↔
      (∀ n, position = some n → read (tokens.getD n "") = .ok value) ∧
        (position = none → value = 0) := by
  cases position with
  | none => simp [operandAt, eq_comm]
  | some n => simp [operandAt]

namespace Instruction.BelongsTo

variable {i : Instruction} {f : OperandFamily} {tokens : List String} {labels : SymbolTable}
  {pc : Int} {o : Operands}

theorem operandFormat_eq (h : i.BelongsTo f) : i.operandFormat = f.format := by
  simp only [operandFormat, h.load, h.jumpRegister, h.store, h.branch, h.format]
  cases f <;> rfl

/-- The layout of an instruction is that of its family, also that of a register jump if there is a
token to decide it. -/
theorem layout_eq (h : i.BelongsTo f) (hlength : 2 < tokens.length) :
    i.layout tokens = f.layout tokens := by
  have htoken : tokens[2]? = some (tokens.getD 2 "") := by
    rw [List.getD_eq_getElem?_getD, List.getElem?_eq_getElem hlength, Option.getD_some]
  rw [layout, OperandLayout.ofTokens, htoken]
  simp only [h.load, h.jumpRegister, h.store, h.branch, h.format]
  cases f
  case jumpRegister => exact if_pos rfl
  all_goals rfl

theorem operandCount_eq (h : i.BelongsTo f) (tokens : List String) :
    (i.layout tokens).operandCount + 1 = f.tokenCount := by
  rcases i.layout_cases tokens with hl | ⟨hl, hf⟩
  · rw [hl, h.operandFormat_eq]
    cases f <;> rfl
  · rw [h.operandFormat_eq] at hf
    rw [hl]
    cases f <;> first | rfl | cases hf

theorem acceptsImmediate_iff (h : i.BelongsTo f) (imm : Int) :
    i.AcceptsImmediate imm ↔ f.HasRoom imm := by
  have hshift := h.shift
  rw [AcceptsImmediate]
  rw [h.format] at hshift ⊢
  cases f
  case immediate | load | jumpRegister =>
    exact iff_of_eq (if_neg fun h₇ => absurd ((hshift rfl).mp h₇) (by decide))
  case shift => exact iff_of_eq (if_pos ((hshift rfl).mpr rfl))
  all_goals exact Iff.rfl

/-- **The operands of an instruction** are read where its family has them. -/
theorem reads_iff (h : i.BelongsTo f) :
    f.Reads tokens labels pc o ↔ lowercase (tokens.headD "") ∈ f.mnemonics ∧
      readOperands i tokens labels pc = .ok o ∧ i.AcceptsImmediate o.imm := by
  have hcount := h.operandCount_eq tokens
  have htwo : 2 < f.tokenCount := by cases f <;> decide
  rw [readOperands_eq_ok, operandValues_eq_ok_iff, h.acceptsImmediate_iff]
  simp only [operandAt_eq_ok, h.format]
  constructor
  · rintro ⟨hmnemonic, hlength, hoperand, habsent, hroom⟩
    rw [h.layout_eq (by omega)]
    rw [h.layout_eq (by omega)] at hcount
    exact ⟨hmnemonic, ⟨hlength.trans hcount.symm,
      fun role => ⟨hoperand role, habsent role⟩⟩, hroom⟩
  · rintro ⟨hmnemonic, ⟨hlength, hvalues⟩, hroom⟩
    rw [h.layout_eq (by omega)] at hvalues
    exact ⟨hmnemonic, hlength.trans hcount, fun role => (hvalues role).1,
      fun role => (hvalues role).2, hroom⟩

/-- The immediate that a word carries is the operand. -/
theorem showsImmediate (h : i.BelongsTo f) {imm : Int} {found : Option Int}
    (hc : i.CarriesImmediate imm found) : f.ShowsImmediate imm found := by
  have hshift := h.shift
  rw [CarriesImmediate] at hc
  rw [h.format] at hshift hc
  cases f
  case immediate | load | jumpRegister =>
    have h₇ : i.funct7 = none := by
      rw [← Option.not_isSome_iff_eq_none]
      exact fun h₇ => absurd ((hshift rfl).mp h₇) (by decide)
    rw [h₇] at hc
    exact hc
  case shift =>
    obtain ⟨n, h₇⟩ := Option.isSome_iff_exists.mp ((hshift rfl).mpr rfl)
    rw [h₇] at hc
    obtain ⟨k, hk, hslice, -⟩ := hc
    exact ⟨k, hk, hslice⟩
  all_goals exact hc

end Instruction.BelongsTo

/-! ### Register jumps -/

/-- Whether the address register of a register jump stands before the offset or behind it, the
operands are the same. -/
theorem readOperands_jumpRegister {i : Instruction} (hi : i.opcode = Opcode.jumpRegister)
    {rs1 imm : String} (hrs1 : Register.isValid rs1 = true) (himm : Register.isValid imm = false)
    (m rd : String) (labels : SymbolTable) (pc : Int) :
    readOperands i [m, rd, rs1, imm] labels pc = readOperands i [m, rd, imm, rs1] labels pc := by
  have hfirst : OperandLayout.ofTokens [m, rd, rs1, imm] i.opcode i.format = .arithmetic :=
    (Instruction.layout_of_jumpRegister hi m rd rs1 imm).trans (if_pos hrs1)
  have hlast : OperandLayout.ofTokens [m, rd, imm, rs1] i.opcode i.format = .memory :=
    (Instruction.layout_of_jumpRegister hi m rd imm rs1).trans
      (if_neg (Bool.eq_false_iff.mp himm))
  have hvalues : operandValues .arithmetic [m, rd, rs1, imm] labels pc i.format
      = operandValues .memory [m, rd, imm, rs1] labels pc i.format := by
    simp only [operandValues, OperandLayout.arithmetic, OperandLayout.memory, operandAt,
      List.getD_cons_succ, List.getD_cons_zero]
  rw [readOperands, readOperands, hfirst, hlast, hvalues]
  exact (if_pos rfl).trans (if_pos rfl).symm

namespace InstructionTable

/-- Two instructions with the same mnemonic are assembled alike if their operands are. -/
theorem assembleInstruction_of_readOperands_eq {t : InstructionTable} {labels : SymbolTable}
    {pc : Int} {m : String} {operands others : List String}
    (h : ∀ i, t.find? m = some i →
      readOperands i (m :: operands) labels pc = readOperands i (m :: others) labels pc) :
    assembleInstruction t labels pc (m :: operands)
      = assembleInstruction t labels pc (m :: others) := by
  rw [assembleInstruction, assembleInstruction]
  cases hi : t.resolve m with
  | error fault => rfl
  | ok i =>
    change (liftFault (readOperands i (m :: operands) labels pc) >>= i.encode) = _
    rw [h i (resolve_eq_ok.mp hi)]
    rfl

theorem opcode_jumpRegister :
    ∀ i ∈ rv32iInstructions.lookup "jalr", i.opcode = Opcode.jumpRegister := by
  decide

/-- **Both ways of writing a register jump** are assembled alike. -/
theorem assembleInstruction_jumpRegister {m rs1 imm : String} (hm : lowercase m = "jalr")
    (hrs1 : Register.isValid rs1 = true) (himm : Register.isValid imm = false)
    (rd : String) (labels : SymbolTable) (pc : Int) :
    assembleInstruction rv32i labels pc [m, rd, rs1, imm]
      = assembleInstruction rv32i labels pc [m, rd, imm, rs1] := by
  refine assembleInstruction_of_readOperands_eq fun i hi => ?_
  rw [find?, hm] at hi
  exact readOperands_jumpRegister (opcode_jumpRegister i hi) hrs1 himm m rd labels pc

end InstructionTable

/-! ### Lines with both ways of writing -/

section

variable {m rd rs1 imm : String} (hm : IsToken m) (hrd : IsToken rd) (hrs1 : IsToken rs1)
  (himm : IsToken imm)

include hm hrd hrs1 himm

/-- The address register stands before the offset. -/
theorem tokenize_commas : tokenize (m ++ " " ++ rd ++ ", " ++ rs1 ++ ", " ++ imm)
    = [m, rd, rs1, imm] := by
  refine HasTokens.tokenize_eq ?_
  have h : HasTokens _ _ := .token_append (d := ' ') hm rfl <| .token_append (d := ',') hrd rfl <|
    .delimiter_cons (d := ' ') rfl <| .token_append (d := ',') hrs1 rfl <|
    .delimiter_cons (d := ' ') rfl <| .single himm
  simpa using h

/-- The address register stands behind the offset, in parentheses. -/
theorem tokenize_parentheses : tokenize (m ++ " " ++ rd ++ ", " ++ imm ++ "(" ++ rs1 ++ ")")
    = [m, rd, imm, rs1] := by
  refine HasTokens.tokenize_eq ?_
  have h : HasTokens _ _ := .token_append (d := ' ') hm rfl <| .token_append (d := ',') hrd rfl <|
    .delimiter_cons (d := ' ') rfl <| .token_append (d := '(') himm rfl <|
    .token_append (d := ')') hrs1 rfl .nil
  simpa using h

end

namespace InstructionTable

/-! ### The instructions that are assembled -/

theorem exists_family {m : String} {i : Instruction} (hi : rv32i.find? m = some i) :
    ∃ f : OperandFamily, lowercase m ∈ f.mnemonics ∧ i.BelongsTo f := by
  obtain ⟨f, -, hf⟩ := exists_belongsTo _ (mem_of_find? hi)
  exact ⟨f, hf⟩

theorem exists_find?_of_mem_mnemonics {m : String} {f : OperandFamily}
    (h : lowercase m ∈ f.mnemonics) : ∃ i, rv32i.find? m = some i ∧ i.BelongsTo f :=
  exists_lookup_of_mem_mnemonics f f.mem_all _ h

/-- The word of an instruction shows the operands that were read. -/
theorem exists_shows {tokens : List String} {i : Instruction} {f : OperandFamily} {o : Operands}
    (hi : rv32i.find? (tokens.headD "") = some i) (hf : i.BelongsTo f) (ho : o.NameRegisters)
    {w : Int} (hw : i.encode o = .ok w) :
    ∃ d, rv32i.decode w = .ok d ∧ f.Shows tokens d o := by
  have hmem := mem_of_find? hi
  have hwell := wellFormed_rv32i _ hmem
  have hcarries := hwell.carries ho (hwell.encode_eq_ok.mp hw).1 w
  refine ⟨_, Accepted.builtIn.decode_of_encode hmem hw, mnemonic?_of_encode hmem ho hw,
    hcarries.format.trans hf.format, fun role hrole => ?_, hf.showsImmediate hcarries.imm⟩
  have hposition := f.isSome_position tokens role
  rw [← hf.format] at hposition
  cases hp : (f.layout tokens).position role with
  | some n =>
    rw [hp] at hposition
    exact hcarries.value?_of_ne hposition.symm hrole
  | none =>
    rw [hp, ← hcarries.format, ← Fields.isSome_value?] at hposition
    exact Option.not_isSome_iff_eq_none.mp (Bool.eq_false_iff.mp hposition.symm)

/-- **An instruction is assembled if the operand table has a row for it**, and its word shows the
operands that were read. A register jump may be written either way, as tokens and as a line. -/
theorem assembleInstruction_iff_reads (labels : SymbolTable) (pc : Int) :
    (∀ tokens, (∃ w, assembleInstruction rv32i labels pc tokens = .ok w) ↔
      ∃ f o, OperandFamily.Reads f tokens labels pc o) ∧
    (∀ tokens f o w, OperandFamily.Reads f tokens labels pc o →
      assembleInstruction rv32i labels pc tokens = .ok w →
        ∃ d, rv32i.decode w = .ok d ∧ f.Shows tokens d o) ∧
    (∀ m rd rs1 imm, lowercase m = "jalr" → Register.isValid rs1 = true →
      Register.isValid imm = false →
        assembleInstruction rv32i labels pc [m, rd, rs1, imm]
          = assembleInstruction rv32i labels pc [m, rd, imm, rs1]) ∧
    (∀ m rd rs1 imm, IsToken m → IsToken rd → IsToken rs1 → IsToken imm → lowercase m = "jalr" →
      Register.isValid rs1 = true → Register.isValid imm = false →
        assembleInstruction rv32i labels pc
            (tokenize (m ++ " " ++ rd ++ ", " ++ rs1 ++ ", " ++ imm))
          = assembleInstruction rv32i labels pc
            (tokenize (m ++ " " ++ rd ++ ", " ++ imm ++ "(" ++ rs1 ++ ")"))) := by
  refine ⟨fun tokens => ⟨?_, ?_⟩, fun tokens f o w hreads hw => ?_,
    fun m rd rs1 imm hjalr hrs1 himm =>
      assembleInstruction_jumpRegister hjalr hrs1 himm rd labels pc,
    fun m rd rs1 imm hm hrd hrs1 himm hjalr hvalid hinvalid => ?_⟩
  · rintro ⟨w, hw⟩
    obtain ⟨-, i, hi, o, ho, hencode⟩ := assembleInstruction_eq_ok.mp hw
    obtain ⟨f, hmnemonic, hf⟩ := exists_family hi
    have hroom := ((wellFormed_rv32i _ (mem_of_find? hi)).encode_eq_ok.mp hencode).1
    exact ⟨f, o, hf.reads_iff.mpr ⟨hmnemonic, ho, hroom⟩⟩
  · rintro ⟨f, o, hreads⟩
    obtain ⟨i, hi, hf⟩ := exists_find?_of_mem_mnemonics hreads.mnemonic
    obtain ⟨-, ho, hroom⟩ := hf.reads_iff.mp hreads
    have hne : tokens ≠ [] := List.ne_nil_of_length_eq_add_one (readOperands_eq_ok.mp ho).1
    rw [assembleInstruction_of_readOperands hne hi ho]
    exact ⟨_, (wellFormed_rv32i _ (mem_of_find? hi)).encode_eq_ok.mpr ⟨hroom, rfl⟩⟩
  · obtain ⟨i, hi, hf⟩ := exists_find?_of_mem_mnemonics hreads.mnemonic
    obtain ⟨-, ho, -⟩ := hf.reads_iff.mp hreads
    have hne : tokens ≠ [] := List.ne_nil_of_length_eq_add_one (readOperands_eq_ok.mp ho).1
    rw [assembleInstruction_of_readOperands hne hi ho] at hw
    exact exists_shows hi hf (nameRegisters_of_readOperands ho) hw
  · rw [tokenize_commas hm hrd hrs1 himm, tokenize_parentheses hm hrd hrs1 himm]
    exact assembleInstruction_jumpRegister hjalr hvalid hinvalid rd labels pc

/-- A shift by the largest amount, its operands with other names than those that are written for
them. -/
theorem assembleInstruction_reads_shift :
    OperandFamily.Reads .shift ["SRAI", "x10", "fp", "0x1F"] [] 0 ⟨10, 8, 0, 31⟩ ∧
      ∃ d, rv32i.decode 0x41F45513 = .ok d ∧
        OperandFamily.Shows .shift ["SRAI", "x10", "fp", "0x1F"] d ⟨10, 8, 0, 31⟩ := by
  obtain ⟨-, hshows, -⟩ := assembleInstruction_iff_reads [] 0
  have hreads : OperandFamily.Reads .shift ["SRAI", "x10", "fp", "0x1F"] [] 0 ⟨10, 8, 0, 31⟩ := by
    refine ⟨by decide +kernel, rfl, fun role n hn => ?_, fun role hn => ?_,
      ⟨by decide, by decide⟩⟩
    · cases role <;> cases hn <;> decide +kernel
    · cases role <;> cases hn
      rfl
  have hword : assembleInstruction rv32i [] 0 ["SRAI", "x10", "fp", "0x1F"] = .ok 0x41F45513 := by
    decide +kernel
  exact ⟨hreads, hshows _ _ _ _ hreads hword⟩

end InstructionTable

end RiscvAssembler
