import Mathlib
import RiscvAssembler.Proofs.Word.RoundTrip

/-!
# Recognising words

A word is recognised by the first instruction of a table whose constants are all found in it. Any
instruction with its constants in the word makes up the word again, so it does not matter that the
constants of several may be. Where no word has the constants of two instructions, as in RV32I, the
order of the table does not matter either: a word is recognised as the instruction it encodes.

## Main definitions

* `Instruction.StoresConstants`: the constants of an instruction are all found in its words.
* `Instruction.ShowsConstants`: they are found in those with a given immediate.
* `Instruction.Separate`: no word has the constants of both instructions.

## Main results

* `InstructionTable.Accepted.encode_of_mnemonic?`: a recognised word is encoded by what it is
  recognised as.
* `Instruction.matchesWord_iff_showsConstants`: when an instruction matches a word that carries it.
* `InstructionTable.mnemonic?_of_matchesWord`: the mnemonic in a table of separate instructions.
* `InstructionTable.mnemonic?_of_encode`: what a word of RV32I is recognised as.
-/

namespace RiscvAssembler

namespace InstructionTable

variable {t : InstructionTable} {w : Int} {d : Decoded} {m : String} {i : Instruction}

/-! ### Encoding a recognised word -/

/-- A number is decoded by its low bits, if their opcode has a format. -/
theorem decode_eq_ok : t.decode w = .ok d ↔ ∃ f, t.formatOf? (slice 0 7 (w % 2 ^ 32)) = some f ∧
    d = ⟨w % 2 ^ 32, slice 0 7 (w % 2 ^ 32), Fields.unpack (w % 2 ^ 32) f⟩ := by
  cases hf : t.formatOf? (slice 0 7 (w % 2 ^ 32)) with
  | some f =>
    rw [decode_of_formatOf? hf]
    constructor
    · rintro ⟨⟩
      exact ⟨f, rfl, rfl⟩
    · rintro ⟨_, ⟨⟩, rfl⟩
      rfl
  | none =>
    have hdecode : t.decode w = .error (.unknownOpcode (slice 0 7 (w % 2 ^ 32)) (w % 2 ^ 32)) := by
      have hword : w % wordModulus = w % 2 ^ 32 := rfl
      simp only [decode, hword, hf]
    rw [hdecode]
    constructor
    · rintro ⟨⟩
    · rintro ⟨_, ⟨⟩, -⟩

/-- The mnemonic of a word is that of an instruction whose constants are found in it. -/
theorem exists_matchesWord_of_mnemonic? (hm : t.mnemonic? d = some m) :
    ∃ i, (m, i) ∈ t.instructions ∧ i.matchesWord d = true := by
  obtain ⟨p, hfind, rfl⟩ := Option.map_eq_some_iff.mp hm
  have hmatches := List.find?_some hfind
  exact ⟨p.2, List.mem_of_find?_eq_some hfind, hmatches⟩

/-- An instruction whose constants are found in a word has the format of the word. -/
theorem format_of_matchesWord (hi : (m, i) ∈ t.instructions) {f : Format}
    (hf : t.formatOf? d.opcode = some f) (hmatches : i.matchesWord d = true) : i.format = f := by
  have hformat := formatOf?_opcode hi
  rw [(Instruction.matchesWord_iff.mp hmatches).1] at hformat
  exact Option.some.inj (hformat.symm.trans hf)

/-- **A recognised word is made up again** by the instruction that it is recognised as, from the
operands in it. -/
theorem Accepted.encode_of_mnemonic? (ht : t.Accepted) (hd : t.decode w = .ok d)
    (hm : t.mnemonic? d = some m) :
    ∃ i, t.find? m = some i ∧ i.encode (d.operands i) = .ok (w % 2 ^ 32) := by
  obtain ⟨f, hf, rfl⟩ := decode_eq_ok.mp hd
  obtain ⟨i, hi, hmatches⟩ := exists_matchesWord_of_mnemonic? hm
  obtain rfl := format_of_matchesWord hi hf hmatches
  exact ⟨i, ht.find?_of_mem hi, (ht.wellFormed _ hi).encode_unpack (below_emod 32 w) hmatches⟩

/-- A table in which every word of the first instruction has the constants of the second one too. -/
def overlapping : InstructionTable where
  name := "custom"
  formats := [(0x13, .I)]
  instructions := [("sra", ⟨0x13, .I, some (.code 5), some 32⟩),
    ("any", ⟨0x13, .I, some (.code 5), none⟩)]
  lookup_opcode := by decide

/-- A text that describes `overlapping`. -/
def overlappingText : String :=
  "\x7bformats: \x7b19: I\x7d, instructions: " ++
    "\x7bsra: \x7bopcode: 19, funct3: 5, funct7: 32\x7d, any: \x7bopcode: 19, funct3: 5\x7d\x7d\x7d"

set_option maxRecDepth 10000 in
theorem ofText_overlappingText : ofText overlappingText = .ok overlapping := by
  cbv

/-- A negative number whose word the second instruction would be encoded to as well. -/
theorem encode_of_mnemonic?_overlapping :
    overlapping.Accepted ∧
      overlapping.decode (-3209308909) = .ok ⟨0x40B5D513, 0x13, .I 10 11 5 0x40B⟩ ∧
      overlapping.mnemonic? ⟨0x40B5D513, 0x13, .I 10 11 5 0x40B⟩ = some "sra" ∧
      ∃ i, overlapping.find? "sra" = some i ∧
        i.encode ((⟨0x40B5D513, 0x13, .I 10 11 5 0x40B⟩ : Decoded).operands i)
          = .ok (-3209308909 % 2 ^ 32) := by
  have ht : overlapping.Accepted := .loaded ofText_overlappingText
  have hd : overlapping.decode (-3209308909) = .ok ⟨0x40B5D513, 0x13, .I 10 11 5 0x40B⟩ := by decide
  have hm : overlapping.mnemonic? ⟨0x40B5D513, 0x13, .I 10 11 5 0x40B⟩ = some "sra" := by decide
  exact ⟨ht, hd, hm, ht.encode_of_mnemonic? hd hm⟩

end InstructionTable

/-! ### Separate instructions -/

namespace Instruction

/-- The format of the instruction has a place for every constant that the instruction has. -/
structure StoresConstants (i : Instruction) : Prop where
  funct3 : i.funct3.isSome = true → i.format.hasFunct3 = true
  funct7 : i.funct7.isSome = true → i.format = .R ∨ i.format = .I

instance (i : Instruction) : Decidable i.StoresConstants :=
  decidable_of_iff ((i.funct3.isSome = true → i.format.hasFunct3 = true) ∧
      (i.funct7.isSome = true → i.format = .R ∨ i.format = .I))
    ⟨fun ⟨h₁, h₂⟩ => ⟨h₁, h₂⟩, fun ⟨h₁, h₂⟩ => ⟨h₁, h₂⟩⟩

/-- The constants of the instruction are found in its word with the immediate `imm`. A seven-bit
function code that the format has no place for may stand in the immediate by chance. -/
structure ShowsConstants (i : Instruction) (imm : Int) : Prop where
  funct3 : i.funct3.isSome = true → i.format.hasFunct3 = true
  funct7 : ∀ n ∈ i.funct7, i.format = .R ∨ i.format = .I ∨ n = slice 5 7 imm

theorem StoresConstants.showsConstants {i : Instruction} (h : i.StoresConstants) (imm : Int) :
    i.ShowsConstants imm := by
  refine ⟨h.funct3, fun n hn => ?_⟩
  rcases h.funct7 (Option.isSome_iff_exists.mpr ⟨n, hn⟩) with hR | hI
  · exact .inl hR
  · exact .inr (.inl hI)

/-- The instructions differ in their opcodes, or in a function code that both of them have. -/
def Separate (i j : Instruction) : Prop :=
  i.opcode ≠ j.opcode ∨
    (∃ a ∈ i.funct3.bind FunctionCode.number?, ∃ b ∈ j.funct3.bind FunctionCode.number?, a ≠ b) ∨
    ∃ a ∈ i.funct7, ∃ b ∈ j.funct7, a ≠ b

instance (i j : Instruction) : Decidable (i.Separate j) :=
  inferInstanceAs (Decidable (_ ∨ _ ∨ _))

end Instruction

/-- A code that is found in a word is the number in the word. -/
theorem FunctionCode.eq_of_isCode {f : FunctionCode} {found : Option Int}
    (h : f.isCode found = true) {n : Int} (hn : f.number? = some n) : found = some n := by
  cases f with
  | unchecked v => cases h
  | code k =>
    cases found with
    | none => cases h
    | some m =>
      obtain rfl : k = n := Option.some.inj hn
      exact congrArg some (eq_of_beq h).symm

theorem Fields.selector_of_imm? {f : Fields} {n : Int} (h : f.imm? = some n) :
    f.selector = slice 5 7 n := by
  cases f <;> cases h <;> rfl

namespace Instruction

variable {i j : Instruction} {d : Decoded}

/-- The three-bit function code of an instruction whose constants are found in a word. -/
theorem funct3?_of_matchesWord (hm : i.matchesWord d = true) {n : Int}
    (hn : i.funct3.bind FunctionCode.number? = some n) : d.fields.funct3? = some n := by
  obtain ⟨f, hf, hnumber⟩ := Option.bind_eq_some_iff.mp hn
  exact FunctionCode.eq_of_isCode ((matchesWord_iff.mp hm).2.1 f hf) hnumber

/-- No word has the constants of two instructions that are separate. -/
theorem Separate.not_matchesWord (h : i.Separate j) (hi : i.matchesWord d = true) :
    ¬ j.matchesWord d = true := by
  intro hj
  obtain ⟨hopcode, -, hselector⟩ := matchesWord_iff.mp hi
  obtain ⟨hopcode', -, hselector'⟩ := matchesWord_iff.mp hj
  rcases h with h | ⟨a, ha, b, hb, h⟩ | ⟨a, ha, b, hb, h⟩
  · exact h (hopcode.trans hopcode'.symm)
  · have hab := (funct3?_of_matchesWord hi ha).symm.trans (funct3?_of_matchesWord hj hb)
    exact h (Option.some.inj hab)
  · exact h ((hselector a ha).trans (hselector' b hb).symm)

/-- The seven-bit function code of an instruction in a word that carries it. -/
theorem selector_of_carries {o : Operands} (h : d.Carries i o) {n : Int} (hn : i.funct7 = some n)
    (hf : i.format = .R ∨ i.format = .I) : n = d.fields.selector := by
  obtain ⟨word, opcode, fields⟩ := d
  have hformat := h.format
  have hfunct7 := h.funct7
  have himm := h.imm
  rw [CarriesImmediate, hn] at himm
  rcases hf with hf | hf <;> rw [hf] at hformat hfunct7 himm <;> cases fields <;> cases hformat
  case inl.R =>
    rw [hn] at hfunct7
    exact (Option.some.inj hfunct7).symm
  case inr.I =>
    obtain ⟨k, hk, -, hselector⟩ := himm
    cases hk
    exact hselector.symm

/-- Outside `R` and `I` the immediate stands where the seven-bit function code is looked for. -/
theorem selector_eq_slice {o : Operands} (h : d.Carries i o) (hR : i.format ≠ .R)
    (hI : i.format ≠ .I) : d.fields.selector = slice 5 7 o.imm := by
  have himm := h.imm
  rw [CarriesImmediate] at himm
  cases hf : i.format <;> simp only [hf] at himm
  case R => exact absurd hf hR
  case I => exact absurd hf hI
  case U =>
    rw [Fields.selector_of_imm? himm]
    exact slice_congr (by decide) (Int.emod_emod_of_dvd o.imm (dvd_refl (2 ^ 20)))
  all_goals exact Fields.selector_of_imm? himm

/-- **When the constants of an instruction are found** in a word that carries it. -/
theorem matchesWord_iff_showsConstants (hi : i.WellFormed) {o : Operands} (h : d.Carries i o) :
    i.matchesWord d = true ↔ i.ShowsConstants o.imm := by
  rw [matchesWord_iff]
  constructor
  · rintro ⟨-, hfunct3, hfunct7⟩
    refine ⟨fun hsome => ?_, fun n hn => ?_⟩
    · obtain ⟨f, hf⟩ := Option.isSome_iff_exists.mp hsome
      by_contra hformat
      have hcode := hfunct3 f hf
      rw [h.funct3, if_neg hformat] at hcode
      cases f <;> cases hcode
    · by_cases hR : i.format = .R
      · exact .inl hR
      · by_cases hI : i.format = .I
        · exact .inr (.inl hI)
        · rw [← selector_eq_slice h hR hI]
          exact .inr (.inr (hfunct7 n hn))
  · rintro ⟨hfunct3, hfunct7⟩
    refine ⟨h.opcode.symm, fun f hf => ?_, fun n hn => ?_⟩
    · have hformat := hfunct3 (Option.isSome_iff_exists.mpr ⟨f, hf⟩)
      have hcode := (hi.funct3_eq hformat).1
      have hfound := h.funct3
      rw [if_pos hformat, hcode] at hfound
      obtain rfl := Option.some.inj (hcode.symm.trans hf)
      rw [hfound]
      exact beq_self_eq_true i.funct3Number
    · by_cases hown : i.format = .R ∨ i.format = .I
      · exact selector_of_carries h hn hown
      · have hne := not_or.mp hown
        rw [selector_eq_slice h hne.1 hne.2]
        exact ((hfunct7 n hn).resolve_left hne.1).resolve_left hne.2

/-- The constants of an instruction are found in a word that carries it, if the format has a place
for all of them. -/
theorem matchesWord_of_carries (hi : i.WellFormed) (hs : i.StoresConstants) {o : Operands}
    (h : d.Carries i o) : i.matchesWord d = true :=
  (matchesWord_iff_showsConstants hi h).mpr (hs.showsConstants o.imm)

end Instruction

namespace InstructionTable

variable {t : InstructionTable} {d : Decoded} {m : String} {i : Instruction} {o : Operands}
  {w : Int}

/-- **In a table of separate instructions** a word has the mnemonic of any instruction whose
constants are found in it. -/
theorem mnemonic?_of_matchesWord (hs : t.instructions.Pairwise fun p q => p.2.Separate q.2)
    (hi : (m, i) ∈ t.instructions) (hm : i.matchesWord d = true) : t.mnemonic? d = some m := by
  obtain ⟨front, rest, hsplit⟩ := List.append_of_mem hi
  rw [hsplit, List.pairwise_append] at hs
  have hfind : t.instructions.find? (fun p => p.2.matchesWord d) = some (m, i) := by
    rw [List.find?_eq_some_iff_append]
    refine ⟨hm, front, rest, hsplit, fun p hp => ?_⟩
    have hseparate := hs.2.2 p hp (m, i) List.mem_cons_self
    rw [Bool.not_eq_true']
    exact Bool.eq_false_iff.mpr fun hp => hseparate.not_matchesWord hp hm
  rw [mnemonic?, hfind]
  rfl

theorem separate_rv32i : rv32iInstructions.Pairwise fun p q => p.2.Separate q.2 := by
  decide +kernel

theorem storesConstants_rv32i : ∀ p ∈ rv32iInstructions, p.2.StoresConstants := by
  decide +kernel

/-- **A word of RV32I is recognised** as the instruction that it encodes. -/
theorem mnemonic?_of_encode (hi : (m, i) ∈ rv32iInstructions) (ho : o.NameRegisters)
    (hw : i.encode o = .ok w) :
    rv32i.mnemonic? ⟨w, i.opcode, (i.operandFields o).stored⟩ = some m := by
  have hwell := wellFormed_rv32i _ hi
  have hcarries := hwell.carries ho (hwell.encode_eq_ok.mp hw).1 w
  exact mnemonic?_of_matchesWord separate_rv32i hi
    (Instruction.matchesWord_of_carries hwell (storesConstants_rv32i _ hi) hcarries)

end InstructionTable

end RiscvAssembler
