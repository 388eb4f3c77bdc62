import RiscvAssembler.Proofs.Program.Instruction
import RiscvAssembler.Proofs.Program.Unlabelled
import RiscvAssembler.Proofs.Pseudo
import RiscvAssembler.Proofs.Word.Disassembly
import RiscvAssembler.Proofs.Word.Recognition

/-!
# Loading a constant

A constant of thirty-two bits is the sum of an upper part, shifted into place, and a lower part with
a sign. The upper part is rounded to the nearest, and so wraps around for the largest constants; the
sum is the constant up to a multiple of `2 ^ 32`, which is all that a register holds of it.

## Main definitions

* `IsAddImmediate`, `IsLoadUpper`: the two kinds of words, as they are decoded.
* `LoadsConstant`: the words that put a number into a register.

## Main results

* `exists_words_of_loadConstant`: the instructions for a constant have words that load it.
* `assemble_loadConstant`: a program that loads a constant.
-/

namespace RiscvAssembler

open Text

/-! ### Words that load constants -/

/-- The word adds the immediate to the register `rs1`. -/
def IsAddImmediate (w rd rs1 imm : Int) : Prop :=
  ∃ d, InstructionTable.rv32i.decode w = .ok d ∧
    InstructionTable.rv32i.mnemonic? d = some "addi" ∧ d.fields.rd? = some rd ∧
      d.fields.rs1? = some rs1 ∧ d.fields.imm? = some imm

/-- The word loads the immediate, twelve bits up. -/
def IsLoadUpper (w rd imm : Int) : Prop :=
  ∃ d, InstructionTable.rv32i.decode w = .ok d ∧
    InstructionTable.rv32i.mnemonic? d = some "lui" ∧ d.fields.rd? = some rd ∧
      d.fields.imm? = some imm

/-- The words load a number into a register, if what exceeds thirty-two bits is left out. -/
inductive LoadsConstant (rd : Int) : List Int → Int → Prop
  | lower {w n : Int} (h : IsAddImmediate w rd 0 n) : LoadsConstant rd [w] n
  | upper {w n : Int} (h : IsLoadUpper w rd n) : LoadsConstant rd [w] (n * 4096)
  | both {w w' upper lower : Int} (h : IsLoadUpper w rd upper)
      (h' : IsAddImmediate w' rd rd lower) : LoadsConstant rd [w, w'] (upper * 4096 + lower)

namespace InstructionTable

/-- An instruction of RV32I whose operands can be read, wherever it stands, has a word that carries
them, if there is room for the immediate. -/
theorem exists_word_of_readOperands {m : String} {i : Instruction} {operands : List String}
    {o : Operands} (hi : rv32i.find? m = some i)
    (hread : ∀ labels pc, readOperands i (m :: operands) labels pc = .ok o)
    (ha : i.AcceptsImmediate o.imm) :
    ∃ w d, (∀ labels pc, assembleInstruction rv32i labels pc (m :: operands) = .ok w) ∧
      rv32i.decode w = .ok d ∧ rv32i.mnemonic? d = some (lowercase m) ∧ d.Carries i o := by
  have hmem := mem_of_find? hi
  have hwell := wellFormed_rv32i _ hmem
  have ho := nameRegisters_of_readOperands (hread [] 0)
  have hencode : i.encode o = .ok ((i.operandFields o).pack i.opcode) :=
    hwell.encode_eq_ok.mpr ⟨ha, rfl⟩
  refine ⟨_, _, fun labels pc => ?_, Accepted.builtIn.decode_of_encode hmem hencode,
    mnemonic?_of_encode hmem ho hencode, hwell.carries ho ha _⟩
  rw [assembleInstruction_of_readOperands (List.cons_ne_nil _ _) hi (hread labels pc), hencode]

end InstructionTable

open InstructionTable

section

variable {rd rs : String} {r s n : Int}

theorem exists_addImmediate (hrd : Register.resolve rd = .ok r) (hrs : Register.resolve rs = .ok s)
    (hlow : -2048 ≤ n) (hhigh : n ≤ 2047) :
    ∃ w, (∀ labels pc, assembleInstruction rv32i labels pc ["addi", rd, rs, decimal n] = .ok w) ∧
      IsAddImmediate w r s n := by
  have hread : ∀ labels pc, readOperands (immediateOperation 0) ["addi", rd, rs, decimal n]
      labels pc = .ok ⟨r, s, 0, n⟩ := by
    intro labels pc
    have hlayout : (immediateOperation 0).layout ["addi", rd, rs, decimal n] = .arithmetic := rfl
    rw [readOperands_eq_ok, operandValues_eq_ok, hlayout]
    simp [OperandLayout.arithmetic, OperandLayout.operandCount, operandAt, hrd, hrs,
      resolveImmediate_decimal]
  obtain ⟨w, d, hw, hd, hm, hcarries⟩ := exists_word_of_readOperands find?_addi hread ⟨hlow, hhigh⟩
  exact ⟨w, hw, d, hd, hm, hcarries.rd, hcarries.rs1, hcarries.imm⟩

theorem exists_loadUpper (hrd : Register.resolve rd = .ok r) (hlow : 0 ≤ n) (hhigh : n ≤ 0xFFFFF) :
    ∃ w, (∀ labels pc, assembleInstruction rv32i labels pc ["lui", rd, decimal n] = .ok w) ∧
      IsLoadUpper w r n := by
  have hread : ∀ labels pc, readOperands { opcode := 0x37, format := .U } ["lui", rd, decimal n]
      labels pc = .ok ⟨r, 0, 0, n⟩ := by
    intro labels pc
    have hlayout : ({ opcode := 0x37, format := .U } : Instruction).layout ["lui", rd, decimal n]
      = .ofFormat .U := rfl
    rw [readOperands_eq_ok, operandValues_eq_ok, hlayout]
    simp [OperandLayout.ofFormat, OperandLayout.operandCount, operandAt, hrd,
      resolveImmediate_decimal]
  have ha : ({ opcode := 0x37, format := .U } : Instruction).AcceptsImmediate n :=
    ⟨by omega, by omega⟩
  obtain ⟨w, d, hw, hd, hm, hcarries⟩ := exists_word_of_readOperands find?_lui hread ha
  have himm : d.fields.imm? = some (n % 0x100000) := hcarries.imm
  rw [Int.emod_eq_of_lt hlow (by omega)] at himm
  exact ⟨w, hw, d, hd, hm, hcarries.rd, himm⟩

/-- **The instructions for a constant** have words that load it, one if the constant is small or has
no lower part. -/
theorem exists_words_of_loadConstant (hrd : Register.resolve rd = .ok r) (n : Int) :
    ∃ words sum, List.Forall₂ (fun tokens w => ∀ pc, assembleInstruction rv32i [] pc tokens = .ok w)
        (Pseudo.loadConstant rd n) words ∧
      LoadsConstant r words sum ∧ sum % 2 ^ 32 = n % 2 ^ 32 ∧
      (words.length = 1 ↔ (-2048 ≤ n ∧ n ≤ 2047) ∨ n % 4096 = 0) := by
  rw [Pseudo.loadConstant]
  split
  · rename_i hsmall
    have hzero : Register.resolve "x0" = .ok 0 := by decide
    obtain ⟨w, hw, hadd⟩ := exists_addImmediate hrd hzero hsmall.1 hsmall.2
    exact ⟨[w], n, .cons (hw []) .nil, .lower hadd, rfl, by simp [hsmall]⟩
  · rename_i hlarge
    cases hsplit : splitConstant n with
    | mk upper lower =>
      obtain ⟨hupper, hlower, hsum, hzero⟩ := splitConstant_eq hsplit
      obtain ⟨w, hw, hload⟩ := exists_loadUpper hrd hupper.1 hupper.2
      dsimp only
      -- no word is needed for a lower part that is zero, as it is for multiples of `4096`
      split
      · rename_i h
        subst h
        rw [Int.add_zero] at hsum
        exact ⟨[w], _, .cons (hw []) .nil, .upper hload, hsum, by simp [hzero.mp rfl]⟩
      · rename_i h
        obtain ⟨w', hw', hadd⟩ := exists_addImmediate hrd hrd hlower.1 hlower.2
        exact ⟨[w, w'], _, .cons (hw []) (.cons (hw' []) .nil), .both hload hadd, hsum,
          by simp [hlarge, hzero.not.mp h]⟩

end

/-! ### Programs that load a constant -/

section

variable {rd token : String} {r n : Int}

theorem loadLine_eq (rd token : String) :
    "li " ++ rd ++ ", " ++ token = "li" ++ " " ++ String.intercalate ", " [rd, token] := by
  rw [← String.toList_inj]
  simp

/-- A line that loads a constant has no label. -/
theorem unlabelled_loadLine (hrd : rd.toList ≠ [] ∧ Plain rd.toList)
    (htoken : token.toList ≠ [] ∧ Plain token.toList) :
    Unlabelled ("li " ++ rd ++ ", " ++ token) ∧
      tokenize ("li " ++ rd ++ ", " ++ token) = ["li", rd, token] := by
  have hm : Plain "li".toList := by decide
  have hinline : ∀ operand ∈ [rd, token], Inline operand.toList := by
    simp [hrd.2.inline, htoken.2.inline]
  have htokens : tokenize ("li " ++ rd ++ ", " ++ token) = ["li", rd, token] := by
    rw [loadLine_eq, tokenize_mnemonic_append (by decide) hm hinline]
    simp [pieceTokens_of_plain hrd.1 hrd.2, pieceTokens_of_plain htoken.1 htoken.2]
  refine ⟨⟨?_, ?_, ?_⟩, htokens⟩
  · simp
  · rw [loadLine_eq]
    exact inline_mnemonic_append hm hinline
  · rw [htokens]
    rfl

/-- The expansion of a line that loads a constant. -/
theorem expandTokens_load (rd : String) (htoken : Unblanked token)
    (hn : parseImmediate token = .ok n) :
    expandTokens ["li", rd, token] =
      if -0x80000000 ≤ n ∧ n < 0x100000000 then .ok (Pseudo.loadConstant rd n)
      else .error (.constantTooWide n) := by
  have hliteral : isLiteral token = true := by
    rw [isLiteral, hn]
    rfl
  have hcount : checkTokenCount ["li", rd, token] = .ok () := if_pos (by simp [tokenLimit])
  have hstrip : stripLabel ["li", rd, token] = ["li", rd, token] := rfl
  have hlower : lowercase "li" = "li" := by decide
  have hexpand : expand ["li", rd, token] = Pseudo.expandLoad rd token := by
    have hrequired : Pseudo.checkCount "li" [rd, token] 2 = .ok () := if_pos rfl
    rw [expand, Pseudo.ofTokens?, hlower, Pseudo.find?, if_pos rfl]
    change Pseudo.expand [rd, token] .loadImmediate = _
    rw [Pseudo.expand, hrequired]
    simp only [bind, Except.bind, List.getD_cons_succ, List.getD_cons_zero]
  rw [expandTokens, hcount, hstrip]
  simp only [bind, Except.bind, hexpand, Pseudo.expandLoad, htoken.trim_eq, hliteral, hn,
    Bool.not_true, Bool.false_and, Bool.false_eq_true, if_false]

end

end RiscvAssembler
