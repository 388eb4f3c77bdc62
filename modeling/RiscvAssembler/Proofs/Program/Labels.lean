import RiscvAssembler.Proofs.Program.Instruction
import RiscvAssembler.Proofs.Program.Passes
import RiscvAssembler.Proofs.Pseudo

/-!
# Labels as operands

The value of a label operand is computed from the label and the address of the instruction, both of
which the first pass has fixed before there is a word. They are multiples of four, so the distance
between them is even; a branch or jump to a label fails only if the label is too far away, and the
word of any other leads from its own address to the label.

## Main definitions

* `Instruction.immediateToken?`: the token that an instruction takes its immediate from.
* `Format.Reaches`: the distances that the offset of a format has room for.
* `Emitted.LeadsToLabel`, `Session.LoadsLabels`: words that lead to labels, and that hold them.
* `Placement.RefusedByDistance`: instructions that fail for the distance of a label or not at all.

## Main results

* `exists_decode_of_label`, `assembleInstruction_of_label`: one branch or jump to a label.
* `exists_decode_of_loadLabel`: one instruction that loads the address of a label.
* `Session.labels_round_trip`: the labels of a program.
-/

namespace RiscvAssembler

open Text

/-! ### Offsets -/

/-- The token that the immediate of an instruction is read from. -/
def Instruction.immediateToken? (i : Instruction) (tokens : List String) : Option String :=
  (i.layout tokens).imm.map fun n => tokens.getD n ""

/-- The tokens where the instruction has registers are names of registers. -/
def Instruction.NamesRegisters (i : Instruction) (tokens : List String) : Prop :=
  ∀ n, some n ∈ [(i.layout tokens).rd, (i.layout tokens).rs1, (i.layout tokens).rs2] →
    Register.isValid (tokens.getD n "") = true

namespace Format

/-- The distances, in bytes, that the offset of a relative format can span in even steps. -/
def Reaches (f : Format) (distance : Int) : Prop :=
  match f with
  | .B => -4096 ≤ distance ∧ distance ≤ 4094
  | .J => -1048576 ≤ distance ∧ distance ≤ 1048574
  | _ => False

/-- The fault of a label that is too far away. -/
def outOfReach (f : Format) (distance : Int) : Fault :=
  match f with
  | .J => .outOfRange "J-type offset" distance (-1048576) 1048575 21
  | _ => .outOfRange "B-type offset" distance (-4096) 4095 13

theorem eq_of_isRelative {f : Format} (h : f.isRelative = true) : f = .B ∨ f = .J := by
  cases f <;> first | exact Or.inl rfl | exact Or.inr rfl | cases h

end Format

/-- Instructions with an offset take an immediate, wherever their opcode puts it. -/
theorem Instruction.exists_imm_layout {i : Instruction} (h : i.format.isRelative = true)
    (tokens : List String) : ∃ n, (i.layout tokens).imm = some n := by
  have hformat : ∃ n, (OperandLayout.ofFormat i.format).imm = some n := by
    rcases Format.eq_of_isRelative h with hf | hf <;> rw [hf] <;> exact ⟨_, rfl⟩
  rw [Instruction.layout, OperandLayout.ofTokens]
  split
  · split
    · split <;> exact ⟨_, rfl⟩
    · exact ⟨_, rfl⟩
  · split
    · exact ⟨_, rfl⟩
    · split
      · exact ⟨_, rfl⟩
      · split
        · exact ⟨_, rfl⟩
        · exact hformat

/-- There is room for an even distance exactly if it is within reach. -/
theorem Instruction.acceptsImmediate_iff_reaches {i : Instruction} (h : i.format.isRelative = true)
    {distance : Int} (heven : distance % 2 = 0) :
    i.AcceptsImmediate distance ↔ i.format.Reaches distance := by
  rw [AcceptsImmediate]
  rcases Format.eq_of_isRelative h with hf | hf <;> rw [hf] <;> exact and_iff_right heven

/-- An even distance is refused for its size and for nothing else. -/
theorem Instruction.checkImmediate_of_not_reaches {i : Instruction}
    (h : i.format.isRelative = true) {distance : Int} (heven : distance % 2 = 0)
    (hd : ¬ i.format.Reaches distance) :
    i.checkImmediate distance = .error (i.format.outOfReach distance) := by
  rw [checkImmediate]
  rcases Format.eq_of_isRelative h with hf | hf <;> rw [hf] at hd ⊢
  · have hrange : ¬ (-4096 ≤ distance ∧ distance ≤ 4095) := by
      rintro ⟨hlow, hhigh⟩
      exact hd ⟨hlow, by omega⟩
    exact (checkOffset_of_even heven _ _ 13).trans (if_neg hrange)
  · have hrange : ¬ (-1048576 ≤ distance ∧ distance ≤ 1048575) := by
      rintro ⟨hlow, hhigh⟩
      exact hd ⟨hlow, by omega⟩
    exact (checkOffset_of_even heven _ _ 21).trans (if_neg hrange)

theorem Format.family_outOfReach (f : Format) (distance : Int) :
    (f.outOfReach distance).family = .immediateRange := by
  cases f <;> rfl

/-! ### Distances -/

/-- The distance from an instruction to a label is even. -/
theorem distance_emod {lines : List String} {p : Placement} (hp : p ∈ placements lines)
    {label : String} {address : Int} (h : (labelTable lines).lookup label = some address) :
    (address - p.address) % 2 = 0 := by
  have hlabel := labelTable_emod (Dictionary.mem_of_lookup h)
  have haddress := Placement.address_emod hp
  omega

theorem Instruction.carriesImmediate_of_isRelative {i : Instruction}
    (h : i.format.isRelative = true) {imm : Int} {found : Option Int}
    (hc : i.CarriesImmediate imm found) : found = some imm := by
  rw [CarriesImmediate] at hc
  rcases Format.eq_of_isRelative h with hf | hf <;> rw [hf] at hc <;> exact hc

theorem labelValue_of_isRelative {f : Format} (h : f.isRelative = true) (address pc : Int) :
    labelValue f address pc = address - pc :=
  if_pos h

section

variable {t : InstructionTable} {lines : List String} {p : Placement} {i : Instruction}
  {token : String}

/-- **The word of a relative instruction leads to its label**, if its immediate is no literal. -/
theorem exists_decode_of_label (ht : t.Accepted) (hp : p ∈ placements lines) {w : Int}
    (hw : assembleInstruction t (labelTable lines) p.address p.tokens = .ok w)
    (hi : t.find? (p.tokens.headD "") = some i) (hrelative : i.format.isRelative = true)
    (htoken : i.immediateToken? p.tokens = some token) (hl : isLiteral token = false) :
    ∃ address, (labelTable lines).lookup token = some address ∧
      ∃ d imm, t.decode w = .ok d ∧ d.fields.imm? = some imm ∧ imm + p.address = address := by
  obtain ⟨-, j, hj, o, ho, hencode⟩ := assembleInstruction_eq_ok.mp hw
  obtain rfl : i = j := Option.some.inj (hi.symm.trans hj)
  obtain ⟨n, hn, rfl⟩ := Option.map_eq_some_iff.mp htoken
  obtain ⟨-, -, -, himm⟩ := operandValues_eq_ok.mp (readOperands_eq_ok.mp ho).2
  have hblank := unblanked_getD (Placement.isInstruction hp).unblanked n
  rw [hn, operandAt, resolveImmediate_eq_ok hblank hl] at himm
  obtain ⟨-, address, hlookup, hvalue⟩ := himm
  have hmem := InstructionTable.mem_of_find? hi
  have hwell := ht.wellFormed _ hmem
  have hcarries := hwell.carriesImmediate (hwell.encode_eq_ok.mp hencode).1
  have hdecode := ht.decode_of_encode hmem hencode
  have hfound := Instruction.carriesImmediate_of_isRelative hrelative hcarries
  rw [labelValue_of_isRelative hrelative] at hvalue
  refine ⟨address, hlookup, ⟨w, i.opcode, (i.operandFields o).stored⟩, o.imm, hdecode, hfound, ?_⟩
  rw [hvalue, Int.sub_add_cancel]

/-- The registers of an instruction are read if the tokens in their places name them. -/
theorem exists_operandAt_of_namesRegisters {tokens : List String} (h : i.NamesRegisters tokens)
    {position : Option Nat}
    (hposition : position ∈ [(i.layout tokens).rd, (i.layout tokens).rs1, (i.layout tokens).rs2]) :
    ∃ value, operandAt tokens position Register.resolve = .ok value := by
  cases position with
  | none => exact ⟨0, rfl⟩
  | some n =>
    simp only [operandAt]
    exact Register.exists_resolve_of_isValid (h n hposition)

/-- **A label is refused only if it is too far away.** -/
theorem assembleInstruction_of_label (ht : t.Accepted) (hp : p ∈ placements lines)
    (hi : t.find? (p.tokens.headD "") = some i) (hrelative : i.format.isRelative = true)
    (hlength : p.tokens.length = (i.layout p.tokens).operandCount + 1)
    (hregisters : i.NamesRegisters p.tokens) (htoken : i.immediateToken? p.tokens = some token)
    (hname : isLabelName token = true) {address : Int}
    (hlookup : (labelTable lines).lookup token = some address) :
    ((∃ w, assembleInstruction t (labelTable lines) p.address p.tokens = .ok w) ↔
        i.format.Reaches (address - p.address)) ∧
      (¬ i.format.Reaches (address - p.address) →
        assembleInstruction t (labelTable lines) p.address p.tokens
          = .error (.fault (i.format.outOfReach (address - p.address)))) := by
  obtain ⟨n, hn, rfl⟩ := Option.map_eq_some_iff.mp htoken
  have hblank := unblanked_getD (Placement.isInstruction hp).unblanked n
  obtain ⟨rd, hrd⟩ := exists_operandAt_of_namesRegisters hregisters
    (show (i.layout p.tokens).rd ∈ _ by simp)
  obtain ⟨rs1, hrs1⟩ := exists_operandAt_of_namesRegisters hregisters
    (show (i.layout p.tokens).rs1 ∈ _ by simp)
  obtain ⟨rs2, hrs2⟩ := exists_operandAt_of_namesRegisters hregisters
    (show (i.layout p.tokens).rs2 ∈ _ by simp)
  have himm : operandAt p.tokens (i.layout p.tokens).imm
      (fun operand => resolveImmediate operand (labelTable lines) p.address i.format)
      = .ok (address - p.address) := by
    rw [hn, operandAt, resolveImmediate_of_isLabelName hblank hname hlookup,
      labelValue_of_isRelative hrelative]
  have ho : readOperands i p.tokens (labelTable lines) p.address
      = .ok ⟨rd, rs1, rs2, address - p.address⟩ :=
    readOperands_eq_ok.mpr ⟨hlength, operandValues_eq_ok.mpr ⟨hrd, hrs1, hrs2, himm⟩⟩
  have hne : p.tokens ≠ [] := List.ne_nil_of_length_eq_add_one hlength
  have hwell := ht.wellFormed _ (InstructionTable.mem_of_find? hi)
  -- of the two tests on an offset only the one on its size is left
  have heven := distance_emod hp hlookup
  rw [assembleInstruction_of_readOperands hne hi ho]
  constructor
  · rw [← Instruction.acceptsImmediate_iff_reaches hrelative heven]
    simp only [hwell.encode_eq_ok, exists_and_left, exists_eq', and_true]
  · intro hd
    exact hwell.encode_eq_error (Instruction.checkImmediate_of_not_reaches hrelative heven hd)

end

/-! ### Loading the address of a label -/

theorem unblanked_of_loadLabel {line mnemonic rd label : String}
    (htokens : stripLabel (tokenize line) = [mnemonic, rd, label]) : Unblanked label := by
  have hmem : label ∈ stripLabel (tokenize line) := by
    rw [htokens]
    simp
  exact unblanked_of_mem_tokenize (mem_of_mem_stripLabel hmem)

/-- A line that loads the address of a label stands for one instruction. -/
theorem lineInstructions_of_loadLabel {line mnemonic rd label : String}
    {instructions : List (List String)} (hline : lineExpansion line = .ok instructions)
    (htokens : stripLabel (tokenize line) = [mnemonic, rd, label])
    (hm : lowercase mnemonic = "li") (hl : isLiteral label = false) :
    lineInstructions line = [["addi", rd, "x0", label]] := by
  have hblank := unblanked_of_loadLabel htokens
  rw [lineInstructions_of_eq_ok hline]
  rw [lineExpansion, htokens] at hline
  exact expand_loadLabel hm hblank hl hline

/-- The word that loads the address of a label has it as its immediate. -/
theorem exists_decode_of_loadLabel {labels : SymbolTable} {pc : Int} {rd label : String}
    (hblank : Unblanked label) (hl : isLiteral label = false) {w : Int}
    (hw : assembleInstruction .rv32i labels pc ["addi", rd, "x0", label] = .ok w) :
    ∃ address, labels.lookup label = some address ∧
      ∃ d, InstructionTable.rv32i.decode w = .ok d ∧ d.fields.imm? = some address := by
  obtain ⟨-, i, hi, o, ho, hencode⟩ := assembleInstruction_eq_ok.mp hw
  rw [List.headD_cons, find?_addi] at hi
  obtain rfl := Option.some.inj hi
  obtain ⟨-, -, -, himm⟩ := operandValues_eq_ok.mp (readOperands_eq_ok.mp ho).2
  have hlayout : ((InstructionTable.immediateOperation 0).layout ["addi", rd, "x0", label]).imm
      = some 3 := rfl
  rw [hlayout, operandAt, List.getD_cons_succ, List.getD_cons_succ, List.getD_cons_succ,
    List.getD_cons_zero, resolveImmediate_eq_ok hblank hl] at himm
  obtain ⟨-, address, hlookup, hvalue⟩ := himm
  have hmem := InstructionTable.mem_of_find? find?_addi
  have hwell := InstructionTable.Accepted.builtIn.wellFormed _ hmem
  have hdecode := InstructionTable.Accepted.builtIn.decode_of_encode hmem hencode
  have hfound : ((InstructionTable.immediateOperation 0).operandFields o).stored.imm?
      = some o.imm := hwell.carriesImmediate (hwell.encode_eq_ok.mp hencode).1
  rw [hvalue] at hfound
  exact ⟨address, hlookup, _, hdecode, hfound⟩

/-! ### Programs -/

/-- The word was emitted for an instruction of the table. If that is a branch or a jump to something
that is no literal, it goes from the address of the word to the label of that name. -/
def Emitted.LeadsToLabel (t : InstructionTable) (symbols : SymbolTable) (e : Emitted) : Prop :=
  ∃ i, t.find? (e.tokens.headD "") = some i ∧
    (i.format.isRelative = true → ∃ token, i.immediateToken? e.tokens = some token ∧
      (isLiteral token = false → ∃ address, symbols.lookup token = some address ∧
        ∃ d imm, t.decode e.word = .ok d ∧ d.fields.imm? = some imm ∧ imm + e.address = address))

/-- If the instruction is a branch or a jump to a label and its operands can be read, it is refused
if the label is out of reach, for that reason, and not otherwise. -/
def Placement.RefusedByDistance (t : InstructionTable) (symbols : SymbolTable) (p : Placement) :
    Prop :=
  ∀ i token address, t.find? (p.tokens.headD "") = some i → i.format.isRelative = true →
    p.tokens.length = (i.layout p.tokens).operandCount + 1 → i.NamesRegisters p.tokens →
    i.immediateToken? p.tokens = some token → isLabelName token = true →
    symbols.lookup token = some address →
      ((∃ w, assembleInstruction t symbols p.address p.tokens = .ok w) ↔
        i.format.Reaches (address - p.address)) ∧
      (¬ i.format.Reaches (address - p.address) →
        assembleInstruction t symbols p.address p.tokens
          = .error (.fault (i.format.outOfReach (address - p.address))) ∧
        (i.format.outOfReach (address - p.address)).family = .immediateRange)

/-- A line that loads something that is no literal has given a single word, whose immediate is the
address of the label of that name. -/
def Session.LoadsLabels (s : Session) (lines : List String) : Prop :=
  ∀ (n : Nat) line mnemonic rd label, lines[n]? = some line →
    stripLabel (tokenize line) = [mnemonic, rd, label] → lowercase mnemonic = "li" →
    isLiteral label = false →
      ∃ e, s.entries.filter (fun e => e.number == n + 1) = [e] ∧
        ∃ address, s.symbols.lookup label = some address ∧
          ∃ d, s.table.decode e.word = .ok d ∧ d.fields.imm? = some address

/-- Every branch and jump of the layout is refused by distance alone. -/
theorem Placement.refusedByDistance {t : InstructionTable} (ht : t.Accepted) {lines : List String}
    {p : Placement} (hp : p ∈ placements lines) : p.RefusedByDistance t (labelTable lines) := by
  intro i token address hi hrelative hlength hregisters htoken hname hlookup
  obtain ⟨hreach, hrefused⟩ :=
    assembleInstruction_of_label ht hp hi hrelative hlength hregisters htoken hname hlookup
  exact ⟨hreach, fun h => ⟨hrefused h, i.format.family_outOfReach _⟩⟩

namespace Session

variable {s : Session} {lines : List String}

/-- Every word that is held leads to its label. -/
theorem Holds.leadsToLabel (h : s.Holds lines) (ht : s.table.Accepted) {e : Emitted}
    (he : e ∈ s.entries) : e.LeadsToLabel s.table s.symbols := by
  obtain ⟨hp, hword⟩ := h.assembled he
  obtain ⟨-, i, hi, -⟩ := assembleInstruction_eq_ok.mp hword
  refine ⟨i, hi, fun hrelative => ?_⟩
  obtain ⟨n, hn⟩ := Instruction.exists_imm_layout hrelative e.tokens
  have htoken : i.immediateToken? e.tokens = some (e.tokens.getD n "") := by
    rw [Instruction.immediateToken?, hn, Option.map_some]
  rw [h.symbols]
  exact ⟨_, htoken, exists_decode_of_label ht hp hword hi hrelative htoken⟩

/-- The words of a line that loads the address of a label. There is only one, since the layout has
only one instruction of that line. -/
theorem Holds.loadsLabels (h : s.Holds lines) (ht : s.table = .rv32i) : s.LoadsLabels lines := by
  intro n line mnemonic rd label hn htokens hm hl
  obtain ⟨instructions, hline⟩ := h.declares.expands line (List.mem_of_getElem? hn)
  obtain ⟨e, hmem, he, htokens'⟩ := h.exists_entry hn
    (lineInstructions_of_loadLabel (expandLine_eq_ok.mp hline).2 htokens hm hl)
  have hword := (h.assembled hmem).2
  rw [htokens', ht] at hword
  obtain ⟨address, hlookup, hdecode⟩ := exists_decode_of_loadLabel
    (unblanked_of_loadLabel htokens) hl hword
  rw [h.symbols, ht]
  exact ⟨e, he, address, hlookup, hdecode⟩

/-- **Labels round-trip.** In a program that is assembled, the words of branches and jumps lead to
the labels they name, and those of loads hold their addresses. In any program whose labels are
known, a branch or jump to a label fails for the distance or not at all. -/
theorem labels_round_trip (hs : s.table.Accepted) (text : String) :
    (∀ words, (s.assemble text).result = .ok words →
      ∀ e ∈ (s.assemble text).session.entries,
        e.LeadsToLabel s.table (s.assemble text).session.symbols) ∧
    (∀ symbols, resolveLabels text = .ok symbols →
      ∀ p ∈ placements (Text.lines text), p.RefusedByDistance s.table symbols) ∧
    (s.table = .rv32i → ∀ words, (s.assemble text).result = .ok words →
      (s.assemble text).session.LoadsLabels (Text.lines text)) := by
  refine ⟨fun words hwords e he => ?_, fun symbols hsymbols p hp => ?_,
    fun hrv32i words hwords => ?_⟩
  · obtain ⟨hholds, -, htable⟩ := holds_of_ok hwords
    rw [← htable] at hs ⊢
    exact hholds.leadsToLabel hs he
  · obtain ⟨-, rfl⟩ := resolveLabels_eq_ok.mp hsymbols
    exact Placement.refusedByDistance hs hp
  · obtain ⟨hholds, -, htable⟩ := holds_of_ok hwords
    exact hholds.loadsLabels (htable.trans hrv32i)

/-- A program that loads an address, branches to the line of the branch, and jumps to its end. -/
def loopProgram : String :=
  "li a0, end\nloop: beq a0, x0, loop\nj end\nend:"

/-- What `loopProgram` is assembled to. -/
def loopReply : Reply (List Int) :=
  (start none false).assemble loopProgram

theorem labels_round_trip_loopProgram :
    (start none false).table.Accepted ∧
      loopReply.result = .ok [0x00C00513, 0x00050063, 0x0040006F] ∧
      (∃ address, loopReply.session.symbols.lookup "loop" = some address ∧
        ∃ d imm, InstructionTable.rv32i.decode 0x00050063 = .ok d ∧ d.fields.imm? = some imm ∧
          imm + 4 = address) ∧
      ((∃ w, assembleInstruction .rv32i (labelTable (Text.lines loopProgram)) 8 ["jal", "x0", "end"]
          = .ok w) ↔ Format.J.Reaches (12 - 8)) ∧
      ∃ e, loopReply.session.entries.filter (fun e => e.number == 0 + 1) = [e] ∧
        ∃ address, loopReply.session.symbols.lookup "end" = some address ∧
          ∃ d, loopReply.session.table.decode e.word = .ok d ∧ d.fields.imm? = some address := by
  have hresult : loopReply.result = .ok [0x00C00513, 0x00050063, 0x0040006F] := by decide +kernel
  obtain ⟨hleads, hrefused, hloads⟩ :=
    labels_round_trip (s := start none false) .builtIn loopProgram
  refine ⟨.builtIn, hresult, ?_, ?_, ?_⟩
  · have he : (⟨4, 0x00050063, ["beq", "a0", "x0", "loop"], "loop: beq a0, x0, loop", 2⟩ : Emitted)
        ∈ loopReply.session.entries := by decide +kernel
    obtain ⟨i, hi, hlabel⟩ := hleads _ hresult _ he
    have hbeq : InstructionTable.rv32i.find? "beq"
        = some (InstructionTable.branchOperation 0) := rfl
    obtain rfl := Option.some.inj (hbeq.symm.trans hi)
    obtain ⟨token, htoken, hoffset⟩ := hlabel rfl
    obtain rfl : "loop" = token := Option.some.inj htoken
    exact hoffset (by decide +kernel)
  · have hsymbols : resolveLabels loopProgram = .ok (labelTable (Text.lines loopProgram)) := by
      decide +kernel
    have hp : (⟨8, ["jal", "x0", "end"], "j end", 3⟩ : Placement)
        ∈ placements (Text.lines loopProgram) := by decide +kernel
    have hregisters : ({ opcode := 0x6F, format := .J } : Instruction).NamesRegisters
        ["jal", "x0", "end"] := by
      intro n hn
      have hn : some n ∈ [some 1, none, none] := hn
      obtain rfl : n = 1 := by simpa using hn
      decide +kernel
    have hjal : InstructionTable.rv32i.find? "jal" = some { opcode := 0x6F, format := .J } := rfl
    exact (hrefused _ hsymbols _ hp _ "end" 12 hjal rfl rfl hregisters rfl (by decide +kernel)
      (by decide +kernel)).1
  · exact hloads rfl _ hresult 0 "li a0, end" "li" "a0" "end" (by decide +kernel)
      (by decide +kernel) (by decide +kernel) (by decide +kernel)

end Session

end RiscvAssembler
