import RiscvAssembler.Proofs.Program.Reassembly

/-!
# Disassembling a program

In RV32I a word is recognised as the instruction that it was assembled from, so that every word of a
program has a text, and this text stands for the word. The texts of all words are a program without
labels and pseudo-instructions, in which the offsets that were computed from labels are numbers, and
which has the same words.

## Main results

* `InstructionTable.mnemonic?_of_assembleInstruction`: what an assembled word is recognised as.
* `InstructionTable.assemble_disassembly`: the texts of the words of a program have these words.
-/

namespace RiscvAssembler

open Text

namespace InstructionTable

/-- **A word is recognised as the instruction it was assembled from**, in lower case. -/
theorem mnemonic?_of_assembleInstruction {labels : SymbolTable} {pc w : Int} {tokens : List String}
    (h : assembleInstruction rv32i labels pc tokens = .ok w) :
    w % 2 ^ 32 = w ∧ ∃ d, rv32i.decode w = .ok d ∧
      rv32i.mnemonic? d = some (lowercase (tokens.headD "")) := by
  obtain ⟨-, i, hi, o, ho, hencode⟩ := assembleInstruction_eq_ok.mp h
  have hmem := mem_of_find? hi
  obtain ⟨-, hpack⟩ := (wellFormed_rv32i _ hmem).encode_eq_ok.mp hencode
  have hbelow : Below 32 w := hpack ▸ Fields.below_pack i.opcode (i.operandFields o)
  exact ⟨hbelow.emod_eq, _, Accepted.builtIn.decode_of_encode hmem hencode,
    mnemonic?_of_encode hmem (nameRegisters_of_readOperands ho) hencode⟩

/-- Words that have mnemonics have texts, each of which stands for its word. -/
theorem exists_texts_of_mnemonic? {words : List Int}
    (h : ∀ w ∈ words, w % 2 ^ 32 = w ∧
      ∃ d m, rv32i.decode w = .ok d ∧ rv32i.mnemonic? d = some m) :
    ∃ texts expansions, words.map rv32i.disassemble = texts.map .ok ∧
      List.Forall₂ StandsFor texts expansions ∧
      List.Forall₂ (fun tokens w => ∀ pc, assembleInstruction rv32i [] pc tokens = .ok w)
        expansions.flatten words := by
  induction words with
  | nil => exact ⟨[], [], rfl, .nil, .nil⟩
  | cons w words ih =>
    obtain ⟨⟨hw, d, m, hd, hm⟩, hwords⟩ := List.forall_mem_cons.mp h
    obtain ⟨texts, expansions, htexts, hstand, hassemble⟩ := ih hwords
    obtain ⟨text, tokens, htext, hstands, hword⟩ := exists_standsFor_of_mnemonic? hd hm
    rw [hw] at hword
    refine ⟨text :: texts, [tokens] :: expansions, ?_, .cons hstands hstand,
      .cons (hword []) hassemble⟩
    rw [List.map_cons, List.map_cons, htext, htexts]

/-- **Disassembling a program keeps it.** Its words are recognised as the instructions that its
lines stand for, and their texts are a program with the same words. -/
theorem assemble_disassembly {text : String} {words : List Int}
    (h : assemble none text = .ok words) :
    List.Forall₂ (fun w p => ∃ d, rv32i.decode w = .ok d ∧
        rv32i.mnemonic? d = some (lowercase (p.tokens.headD ""))) words (placements (lines text)) ∧
      ∃ texts, words.map rv32i.disassemble = texts.map .ok ∧
        assemble none (unlines texts) = .ok words := by
  have hwords := (Session.assemble_eq_ok.mp h).2
  have hmnemonics : ∀ w ∈ words, w % 2 ^ 32 = w ∧
      ∃ d m, rv32i.decode w = .ok d ∧ rv32i.mnemonic? d = some m := by
    intro w hw
    obtain ⟨p, -, hp⟩ := List.mem_map.mp (hwords ▸ List.mem_map_of_mem hw)
    obtain ⟨hword, d, hd, hm⟩ := mnemonic?_of_assembleInstruction hp
    exact ⟨hword, d, _, hd, hm⟩
  obtain ⟨texts, expansions, htexts, hstand, hassemble⟩ := exists_texts_of_mnemonic? hmnemonics
  refine ⟨?_, texts, htexts, Session.assemble_unlines hstand hassemble⟩
  rw [← List.forall₂_eq_eq_eq, List.forall₂_map_left_iff, List.forall₂_map_right_iff] at hwords
  exact hwords.imp fun w p hw => (mnemonic?_of_assembleInstruction hw.symm).2

/-- A program with a label, capitals, a comment, and a constant that takes two instructions. -/
def shiftProgram : String :=
  "top: LI a0, 0x12345\n  SRAI t0, a0, 3 # an eighth\nneg a1, t0\nbnez a1, top"

/-- The words of `shiftProgram`. -/
def shiftWords : List Int :=
  [0x00012537, 0x34550513, 0x40355293, 0x405005B3, 0xFE0598E3]

/-- The texts of `shiftWords`. -/
def shiftTexts : List String :=
  ["lui a0, 0x12", "addi a0, a0, 837", "srai t0, a0, 3", "sub a1, zero, t0", "bne a1, zero, -16"]

theorem assemble_disassembly_shiftProgram :
    assemble none shiftProgram = .ok shiftWords ∧
      (∃ d, rv32i.decode 0x40355293 = .ok d ∧ rv32i.mnemonic? d = some (lowercase "SRAI")) ∧
      shiftWords.map rv32i.disassemble = shiftTexts.map .ok ∧
      assemble none (unlines shiftTexts) = .ok shiftWords := by
  have hwords : assemble none shiftProgram = .ok shiftWords := by decide +kernel
  have htexts : shiftWords.map rv32i.disassemble = shiftTexts.map .ok := by decide +kernel
  obtain ⟨hmnemonics, texts, hdisassemble, hassemble⟩ := assemble_disassembly hwords
  have heq : texts = shiftTexts :=
    (List.map_inj_right fun _ _ => Except.ok.inj).mp (hdisassemble.symm.trans htexts)
  refine ⟨hwords, ?_, htexts, heq ▸ hassemble⟩
  have hplacements : (placements (lines shiftProgram))[2]? =
      some ⟨8, ["SRAI", "t0", "a0", "3"], "  SRAI t0, a0, 3 # an eighth", 2⟩ := by decide +kernel
  obtain ⟨hlength, hget⟩ := List.forall₂_iff_get.mp hmnemonics
  obtain ⟨hlt, hp⟩ := List.getElem?_eq_some_iff.mp hplacements
  have hthird := hget 2 (by decide) hlt
  rwa [List.get_eq_getElem, List.get_eq_getElem, hp] at hthird

end InstructionTable

end RiscvAssembler
