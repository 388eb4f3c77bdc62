import RiscvAssembler.Proofs.Program.Instruction
import RiscvAssembler.Proofs.Program.Unlabelled
import RiscvAssembler.Proofs.Word.Disassembly
import RiscvAssembler.Proofs.Word.Recognition

/-!
# Assembling a disassembled word

The text of a word that has a mnemonic is the line of an instruction: its tokens are those of the
mnemonic and the fields, the layout of the opcode finds each field again, the numerals are read
back, and encoding makes up the word. A word without a mnemonic shows its opcode instead, which is
no name of an instruction, so that its text is refused.

## Main definitions

* `IsBaseName`: the names that stand for themselves in front of two operands or more.

## Main results

* `InstructionTable.readOperands_operandTokens`: the tokens of a word are read as its fields.
* `IsBaseName.standsFor`: a line with such a name stands for itself.
* `InstructionTable.exists_standsFor_of_mnemonic?`: the text of a word stands for the word.
* `InstructionTable.assemble_disassemble`: the text of a word is assembled to the word or refused.
-/

namespace RiscvAssembler

open Text

/-! ### Reading the operands of a decoded word -/

namespace InstructionTable

theorem resolve_registerText (low : Nat) (w : Int) :
    Register.resolve (registerText (slice low 5 w)) = .ok (slice low 5 w) :=
  Register.resolve_roleName (slice_nonneg low 5 w) (slice_lt low 5 w)

theorem resolveImmediate_hexLower {n : Int} (hn : 0 ≤ n) (labels : SymbolTable) (pc : Int)
    (f : Format) : resolveImmediate ("0x" ++ hexLower 0 n) labels pc f = .ok n :=
  resolveImmediate_of_parseImmediate (plain_hexLower hn).isBlank_eq (parseImmediate_hexLower hn)

/-- The formats of RV32I go with the layouts of their opcodes, if a register jump names its address
register first. -/
theorem layout_eq {i : Instruction} (hi : rv32i.formatOf? i.opcode = some i.format)
    {tokens : List String}
    (hjump : i.opcode = Opcode.jumpRegister →
      ∃ token, tokens[2]? = some token ∧ Register.isValid token = true) :
    i.layout tokens = if i.opcode = Opcode.load then .memory else .ofFormat i.format := by
  obtain ⟨opcode, format, funct3, funct7⟩ := i
  have hmem : (opcode, format) ∈ rv32iFormats := Dictionary.mem_of_lookup hi
  simp only [rv32iFormats, List.mem_cons, Prod.mk.injEq, List.not_mem_nil, or_false] at hmem
  rcases hmem with h | ⟨rfl, rfl⟩ | h | h | h | h | h | h | h
  case inr.inl =>
    obtain ⟨token, htoken, hvalid⟩ := hjump rfl
    simp only [Instruction.layout, OperandLayout.ofTokens, htoken, hvalid]
    rfl
  all_goals
    obtain ⟨rfl, rfl⟩ := h
    rfl

theorem format_of_opcode {i : Instruction} (hi : rv32i.formatOf? i.opcode = some i.format)
    (h : i.opcode = Opcode.load ∨ i.opcode = Opcode.jumpRegister) : i.format = .I := by
  rcases h with h | h <;> rw [h] at hi <;> exact (Option.some.inj hi).symm

/-- **The tokens of a decoded word are read as its fields.** -/
theorem readOperands_operandTokens {i : Instruction}
    (hi : rv32i.formatOf? i.opcode = some i.format)
    (h₇ : i.opcode = Opcode.load → i.funct7 = none) (m : String) (w : Int) (labels : SymbolTable)
    (pc : Int) :
    let d : Decoded := ⟨w, i.opcode, Fields.unpack w i.format⟩
    readOperands i (m :: d.operandTokens i.funct7.isSome) labels pc = .ok (d.operands i) := by
  intro d
  have hregister := fun low => resolve_registerText low w
  have hdecimal := fun n => resolveImmediate_decimal n labels pc i.format
  have hupper := resolveImmediate_hexLower (slice_nonneg 12 20 w) labels pc i.format
  have hlayout : i.layout (m :: d.operandTokens i.funct7.isSome)
      = if i.opcode = Opcode.load then .memory else .ofFormat i.format := by
    refine layout_eq hi fun hjump => ⟨registerText (slice 15 5 w), ?_, ?_⟩
    · have hload : i.opcode ≠ Opcode.load := by
        rw [hjump]
        decide
      simp [d, Decoded.operandTokens, Fields.unpack, format_of_opcode hi (Or.inr hjump), hload]
    · exact Register.isValid_roleName (slice_nonneg 15 5 w) (slice_lt 15 5 w)
  rw [readOperands_eq_ok, operandValues_eq_ok, hlayout]
  -- a load names its address register last, so that the same fields stand elsewhere
  by_cases hload : i.opcode = Opcode.load
  · have hf := format_of_opcode hi (Or.inl hload)
    rw [hf] at hdecimal
    simp [d, hf, hload, h₇ hload, Decoded.operandTokens, Decoded.operands, Fields.unpack,
      Fields.format, Fields.rd?, Fields.rs1?, Fields.rs2?, Fields.imm?, OperandLayout.memory,
      OperandLayout.operandCount, operandAt, hregister, hdecimal]
  · cases hf : i.format <;> rw [hf] at hdecimal hupper <;>
      simp [d, hf, hload, Decoded.operandTokens, Decoded.operands, Fields.unpack, Fields.format,
        Fields.rd?, Fields.rs1?, Fields.rs2?, Fields.imm?, OperandLayout.ofFormat,
        OperandLayout.arithmetic, OperandLayout.operandCount, operandAt, hregister, hdecimal,
        hupper]

end InstructionTable

/-! ### Programs of one instruction -/

/-- The text is not a label and, before two operands or more, no pseudo-instruction. -/
structure IsBaseName (m : String) : Prop where
  ne_nil : m.toList ≠ []
  plain : Plain m.toList
  isLabel : isLabel m = false
  ne_li : lowercase m ≠ "li"
  template : Pseudo.templates.lookup (lowercase m) = none

instance (m : String) : Decidable (IsBaseName m) :=
  decidable_of_iff (m.toList ≠ [] ∧ Plain m.toList ∧ isLabel m = false ∧ lowercase m ≠ "li" ∧
      Pseudo.templates.lookup (lowercase m) = none)
    ⟨fun ⟨h₁, h₂, h₃, h₄, h₅⟩ => ⟨h₁, h₂, h₃, h₄, h₅⟩,
      fun ⟨h₁, h₂, h₃, h₄, h₅⟩ => ⟨h₁, h₂, h₃, h₄, h₅⟩⟩

namespace IsBaseName

variable {m : String} {operands : List String}

theorem ne_empty (hm : IsBaseName m) : m ≠ "" := by
  rintro rfl
  exact hm.ne_nil rfl

/-- A name before two operands or more stands for itself. -/
theorem expandTokens_eq (hm : IsBaseName m) (hlow : 2 ≤ operands.length)
    (hhigh : operands.length ≤ 4) : expandTokens (m :: operands) = .ok [m :: operands] := by
  have hfind : Pseudo.find? (lowercase m) operands.length = none := by
    rw [Pseudo.find?, if_neg hm.ne_li, hm.template, if_neg (by omega)]
  have hcount : checkTokenCount (m :: operands) = .ok () :=
    if_pos (Nat.succ_le_succ hhigh)
  have hstrip : stripLabel (m :: operands) = m :: operands := by
    rw [stripLabel, hm.isLabel]
    rfl
  rw [expandTokens, hcount, hstrip]
  change expand (m :: operands) = _
  rw [expand, Pseudo.ofTokens?, hfind]

/-- **A line with such a name** and two to four operands stands for itself. -/
theorem standsFor (hm : IsBaseName m) {texts : List String}
    (htexts : ∀ text ∈ texts, Inline text.toList) (hoperands : texts.flatMap pieceTokens = operands)
    (hlow : 2 ≤ operands.length) (hhigh : operands.length ≤ 4) :
    StandsFor (m ++ " " ++ String.intercalate ", " texts) [m :: operands] := by
  have htokens := tokenize_mnemonic_append hm.ne_nil hm.plain htexts
  rw [hoperands] at htokens
  refine ⟨⟨?_, inline_mnemonic_append hm.plain htexts, ?_⟩, ?_⟩
  · rw [toList_mnemonic_append]
    exact List.append_ne_nil_of_left_ne_nil hm.ne_nil _
  · rw [htokens, leadingLabel?, hm.isLabel]
    rfl
  · rw [expandLine, htokens, hm.expandTokens_eq hlow hhigh]

end IsBaseName

/-! ### The built-in table -/

namespace InstructionTable

theorem isBaseName_of_mem : ∀ p ∈ rv32iInstructions, IsBaseName p.1 := by
  decide +kernel

theorem isBaseName_opcode : ∀ p ∈ rv32iFormats, IsBaseName ("0x" ++ hexLower 2 p.1) := by
  decide +kernel

theorem find?_opcode :
    ∀ p ∈ rv32iFormats, (rv32i.find? ("0x" ++ hexLower 2 p.1)).isNone = true := by
  decide +kernel

theorem funct7_of_load :
    ∀ p ∈ rv32iInstructions, p.2.opcode = Opcode.load → p.2.funct7.isNone = true := by
  decide +kernel

/-- There are two or three operands. -/
theorem length_operandTokens (d : Decoded) (isShift : Bool) :
    2 ≤ (d.operandTokens isShift).length ∧ (d.operandTokens isShift).length ≤ 3 := by
  rw [Decoded.operandTokens]
  split
  case h_2 => split <;> simp
  all_goals simp

/-- A word with a mnemonic is assembled from the text of it. -/
theorem assembleInstruction_operandTokens {w : Int} (hw : Below 32 w) {m : String} {i : Instruction}
    (hi : (m, i) ∈ rv32iInstructions)
    (hmatches : i.matchesWord ⟨w, slice 0 7 w, Fields.unpack w i.format⟩ = true)
    (labels : SymbolTable) (pc : Int) :
    assembleInstruction rv32i labels pc (m ::
      (⟨w, slice 0 7 w, Fields.unpack w i.format⟩ : Decoded).operandTokens i.funct7.isSome)
      = .ok w := by
  have hopcode : i.opcode = slice 0 7 w := (Instruction.matchesWord_iff.mp hmatches).1
  have h₇ : i.opcode = Opcode.load → i.funct7 = none := fun h =>
    Option.isNone_iff_eq_none.mp (funct7_of_load _ hi h)
  have hread := readOperands_operandTokens (formatOf?_opcode hi) h₇ m w labels pc
  rw [hopcode] at hread
  have hfind : rv32i.find? m = some i := Accepted.builtIn.find?_of_mem hi
  rw [assembleInstruction_of_readOperands (List.cons_ne_nil _ _) hfind hread]
  exact (wellFormed_rv32i _ hi).encode_unpack hw hmatches

/-- **The text of a word that has a mnemonic** stands for an instruction with that word. -/
theorem exists_standsFor_of_mnemonic? {w : Int} {d : Decoded} (hd : rv32i.decode w = .ok d)
    {m : String} (hm : rv32i.mnemonic? d = some m) :
    ∃ text tokens, rv32i.disassemble w = .ok text ∧ StandsFor text [tokens] ∧
      ∀ labels pc, assembleInstruction rv32i labels pc tokens = .ok (w % 2 ^ 32) := by
  have htext := disassemble_of_decode hd
  obtain ⟨f, hf, rfl⟩ := decode_eq_ok.mp hd
  obtain ⟨i, hi, hmatches⟩ := exists_matchesWord_of_mnemonic? hm
  obtain rfl := format_of_matchesWord hi hf hmatches
  have hbase := isBaseName_of_mem _ hi
  rw [mnemonicText_of_some hm hbase.ne_empty] at htext
  have hoperands := flatMap_operandTexts rv32i m (w % 2 ^ 32) (slice 0 7 (w % 2 ^ 32)) i.format
  rw [Accepted.builtIn.find?_of_mem hi, Option.bind_some] at hoperands
  obtain ⟨hlow, hhigh⟩ := length_operandTokens
    ⟨w % 2 ^ 32, slice 0 7 (w % 2 ^ 32), Fields.unpack (w % 2 ^ 32) i.format⟩ i.funct7.isSome
  refine ⟨_, _, htext, hbase.standsFor (inline_operandTexts rv32i m _ _ _) hoperands hlow
    (by omega), fun labels pc => ?_⟩
  exact assembleInstruction_operandTokens (below_emod 32 w) hi hmatches labels pc

/-- A name that no instruction has is refused. -/
theorem assembleInstruction_of_find?_eq_none {t : InstructionTable} {m : String}
    (hm : t.find? m = none) (labels : SymbolTable) (pc : Int) (operands : List String) :
    assembleInstruction t labels pc (m :: operands) = .error (.fault (.unknownMnemonic m)) := by
  rw [assembleInstruction, resolve, hm]
  rfl

/-- A word without a mnemonic is refused for the name in its text. -/
theorem assemble_text_of_no_mnemonic {w : Int} {f : Format}
    (hf : rv32i.formatOf? (slice 0 7 w) = some f) :
    ∃ report, assemble none ("0x" ++ hexLower 2 (slice 0 7 w) ++ " " ++ String.intercalate ", "
      (rv32i.operandTexts ("0x" ++ hexLower 2 (slice 0 7 w))
        ⟨w, slice 0 7 w, Fields.unpack w f⟩)) = .error (.fault report) ∧
      report.family = .unknownMnemonic := by
  have hmem : (slice 0 7 w, f) ∈ rv32iFormats := Dictionary.mem_of_lookup hf
  have hm := isBaseName_opcode _ hmem
  have hfind := Option.isNone_iff_eq_none.mp (find?_opcode _ hmem)
  dsimp only at hm hfind
  generalize "0x" ++ hexLower 2 (slice 0 7 w) = m at hm hfind ⊢
  obtain ⟨hlow, hhigh⟩ := length_operandTokens ⟨w, slice 0 7 w, Fields.unpack w f⟩
    ((rv32i.find? m).bind (·.funct7)).isSome
  have hstands := hm.standsFor (inline_operandTexts rv32i m w _ _)
    (flatMap_operandTexts rv32i m w _ f) hlow (by omega)
  have hassemble : assemble none _ = ((assembleInstruction rv32i [] 0 _).map _).mapError _ :=
    hstands.assemble_eq (Session.start none false)
  rw [assembleInstruction_of_find?_eq_none hfind] at hassemble
  exact ⟨_, hassemble, rfl⟩

/-- **The text of a word** is assembled to the word, or refused for want of a mnemonic. -/
theorem assemble_disassemble {w : Int} (hw : (rv32i.formatOf? (w % 2 ^ 7)).isSome = true) :
    ∃ d text, rv32i.decode w = .ok d ∧ rv32i.disassemble w = .ok text ∧
      match rv32i.mnemonic? d with
      | some _ => assemble none text = .ok [w % 2 ^ 32]
      | none => ∃ report, assemble none text = .error (.fault report) ∧
          report.family = .unknownMnemonic := by
  obtain ⟨f, hf⟩ := Option.isSome_iff_exists.mp hw
  have hopcode : w % 2 ^ 7 = slice 0 7 (w % 2 ^ 32) := by
    rw [slice_def]
    omega
  rw [hopcode] at hf
  have hdecode := decode_of_formatOf? hf
  cases hm : rv32i.mnemonic? ⟨w % 2 ^ 32, slice 0 7 (w % 2 ^ 32), Fields.unpack (w % 2 ^ 32) f⟩ with
  | some m =>
    obtain ⟨text, tokens, htext, hstands, hword⟩ := exists_standsFor_of_mnemonic? hdecode hm
    have hassemble : assemble none _ = ((assembleInstruction rv32i [] 0 _).map _).mapError _ :=
      hstands.assemble_eq (Session.start none false)
    rw [hword] at hassemble
    refine ⟨_, text, hdecode, htext, ?_⟩
    rw [hm]
    exact hassemble
  | none =>
    refine ⟨_, _, hdecode, disassemble_of_decode hdecode, ?_⟩
    rw [hm, mnemonicText_of_none hm]
    exact assemble_text_of_no_mnemonic hf

/-- A negative number that stands for a store with a negative offset. -/
theorem assemble_disassemble_store :
    (rv32i.formatOf? (-32428509 % 2 ^ 7)).isSome = true ∧
      rv32i.disassemble (-32428509) = .ok "sw ra, -4(sp)" ∧
      assemble none "sw ra, -4(sp)" = .ok [-32428509 % 2 ^ 32] := by
  have hw : (rv32i.formatOf? (-32428509 % 2 ^ 7)).isSome = true := by decide
  have htext : rv32i.disassemble (-32428509) = .ok "sw ra, -4(sp)" := by decide +kernel
  have hdecoded : rv32i.decode (-32428509) = .ok ⟨0xFE112E23, 0x23, .S 2 1 2 (-4)⟩ := by decide
  obtain ⟨d, text, hd, ht, hassemble⟩ := assemble_disassemble hw
  obtain rfl := Except.ok.inj (hdecoded.symm.trans hd)
  obtain rfl := Except.ok.inj (htext.symm.trans ht)
  exact ⟨hw, htext, hassemble⟩

end InstructionTable

end RiscvAssembler
