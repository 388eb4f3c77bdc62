import Mathlib
import RiscvAssembler.Proofs.Word.Recognition

/-!
# Words under several mnemonics

A table may have several instructions that encode one word, and the word is recognised as the first
of those whose constants are found in it. The instruction that encoded it is among them if its own
constants are. A table may give an instruction a function code that its format has no place for:
nothing of it is encoded, but it is looked for, and the word is not recognised as that instruction.

## Main definitions

* `InstructionTable.EncodedBefore`: an earlier instruction encodes the word.
* `InstructionTable.Recognises`: a word is recognised as an instruction or in place of it.

## Main results

* `InstructionTable.exists_mnemonic?_of_matchesWord`: the first match is no later than any other.
* `InstructionTable.Accepted.recognises_of_encode`: which words are recognised by their table.
-/

namespace RiscvAssembler

namespace InstructionTable

variable {t : InstructionTable} {d : Decoded} {m : String} {i : Instruction} {o : Operands}
  {w : Int}

/-! ### Earlier instructions -/

/-- An instruction of the table that comes before that of the mnemonic encodes the word. -/
def EncodedBefore (t : InstructionTable) (m : String) (w : Int) : Prop :=
  ∃ front i rest, t.instructions = front ++ (m, i) :: rest ∧
    ∃ p ∈ front, ∃ o : Operands, o.NameRegisters ∧ p.2.encode o = .ok w

/-- The word has a mnemonic, which is another one than `m` only where an earlier instruction encodes
the word as well. -/
def Recognises (t : InstructionTable) (w : Int) (m : String) : Prop :=
  ∃ d m', t.decode w = .ok d ∧ t.mnemonic? d = some m' ∧ (m' = m ∨ t.EncodedBefore m w)

/-- A word that an instruction matches has a mnemonic, that of the instruction or an earlier one. -/
theorem exists_mnemonic?_of_matchesWord (hi : (m, i) ∈ t.instructions)
    (hm : i.matchesWord d = true) :
    ∃ m', t.mnemonic? d = some m' ∧ (m' = m ∨ ∃ front rest,
      t.instructions = front ++ (m, i) :: rest ∧ ∃ p ∈ front, p.2.matchesWord d = true) := by
  obtain ⟨front, rest, hsplit⟩ := List.append_of_mem hi
  cases hfront : front.find? (fun p => p.2.matchesWord d) with
  | none =>
    refine ⟨m, ?_, .inl rfl⟩
    have hfind : ((m, i) :: rest).find? (fun p => p.2.matchesWord d) = some (m, i) :=
      List.find?_cons_of_pos hm
    rw [mnemonic?, hsplit, List.find?_append, hfront, Option.none_or, hfind]
    rfl
  | some p =>
    have hmatches := List.find?_some hfront
    refine ⟨p.1, ?_, .inr ⟨front, rest, hsplit, p, List.mem_of_find?_eq_some hfront, hmatches⟩⟩
    rw [mnemonic?, hsplit, List.find?_append, hfront]
    rfl

/-- The registers that are read from a word exist. -/
theorem nameRegisters_operands (i : Instruction) (w opcode : Int) (f : Format) :
    ((⟨w, opcode, Fields.unpack w f⟩ : Decoded).operands i).NameRegisters := by
  have hregister : ∀ low : Nat, 0 ≤ slice low 5 w ∧ slice low 5 w ≤ 31 := fun low =>
    ⟨slice_nonneg low 5 w, Int.le_of_lt_add_one (slice_lt low 5 w)⟩
  have hzero : (0 : Int) ≤ 0 ∧ (0 : Int) ≤ 31 := by decide
  constructor <;> cases f <;> first | exact hregister _ | exact hzero

/-- An instruction that matches a word encodes it. -/
theorem Accepted.exists_encode_of_matchesWord (ht : t.Accepted) {p : String × Instruction}
    (hp : p ∈ t.instructions) (hd : t.decode w = .ok d) (hm : p.2.matchesWord d = true) :
    ∃ o : Operands, o.NameRegisters ∧ p.2.encode o = .ok (w % 2 ^ 32) := by
  obtain ⟨f, hf, rfl⟩ := decode_eq_ok.mp hd
  obtain rfl := format_of_matchesWord hp hf hm
  have hencode := (ht.wellFormed _ hp).encode_unpack (below_emod 32 w) hm
  exact ⟨_, nameRegisters_operands p.2 _ _ _, hencode⟩

/-! ### The words of a table -/

/-- An instruction is recognised, or an earlier one in its place, if its constants are found. -/
theorem Accepted.recognises_of_matchesWord (ht : t.Accepted) (hi : (m, i) ∈ t.instructions)
    (hd : t.decode w = .ok d) (hword : w % 2 ^ 32 = w) (hm : i.matchesWord d = true) :
    t.Recognises w m := by
  obtain ⟨m', hm', hfirst⟩ := exists_mnemonic?_of_matchesWord hi hm
  refine ⟨d, m', hd, hm', hfirst.imp_right ?_⟩
  rintro ⟨front, rest, hsplit, p, hp, hpmatches⟩
  have hmem : p ∈ t.instructions := by
    rw [hsplit]
    exact List.mem_append_left _ hp
  obtain ⟨o, ho, hencode⟩ := ht.exists_encode_of_matchesWord hmem hd hpmatches
  rw [hword] at hencode
  exact ⟨front, i, rest, hsplit, p, hp, o, ho, hencode⟩

/-- The constants of the instruction with a mnemonic are found in the words of that mnemonic. -/
theorem Accepted.matchesWord_of_mnemonic? (ht : t.Accepted) (hi : (m, i) ∈ t.instructions)
    (hm : t.mnemonic? d = some m) : i.matchesWord d = true := by
  obtain ⟨j, hj, hmatches⟩ := exists_matchesWord_of_mnemonic? hm
  obtain rfl : i = j := Option.some.inj ((ht.find?_of_mem hi).symm.trans (ht.find?_of_mem hj))
  exact hmatches

/-- **A word is recognised by the table that it was encoded from** where the constants of the
instruction are found in it. Otherwise it is not recognised as that instruction. -/
theorem Accepted.recognises_of_encode (ht : t.Accepted) (hi : (m, i) ∈ t.instructions)
    (ho : o.NameRegisters) (hw : i.encode o = .ok w) :
    (i.ShowsConstants o.imm → t.Recognises w m) ∧
      (¬ i.ShowsConstants o.imm → ∀ d, t.decode w = .ok d → t.mnemonic? d ≠ some m) := by
  have hwell := ht.wellFormed _ hi
  have hd := ht.decode_of_encode hi hw
  obtain ⟨ha, hpack⟩ := hwell.encode_eq_ok.mp hw
  have hmatches := Instruction.matchesWord_iff_showsConstants hwell (hwell.carries ho ha w)
  constructor
  · intro hshows
    have hword : w % 2 ^ 32 = w := by
      rw [← hpack]
      exact (Fields.below_pack i.opcode (i.operandFields o)).emod_eq
    exact ht.recognises_of_matchesWord hi hd hword (hmatches.mpr hshows)
  · intro hshows d' hd' hm
    obtain rfl := Except.ok.inj (hd.symm.trans hd')
    exact hshows (hmatches.mp (ht.matchesWord_of_mnemonic? hi hm))

/-- A word of the second instruction, which is recognised as the first. -/
theorem recognises_any_overlapping :
    overlapping.Accepted ∧ ("any", ⟨0x13, .I, some (.code 5), none⟩) ∈ overlapping.instructions ∧
      (⟨10, 11, 0, 0x40B⟩ : Operands).NameRegisters ∧
      (⟨0x13, .I, some (.code 5), none⟩ : Instruction).encode ⟨10, 11, 0, 0x40B⟩
        = .ok 0x40B5D513 ∧
      overlapping.mnemonic? ⟨0x40B5D513, 0x13, .I 10 11 5 0x40B⟩ = some "sra" ∧
      overlapping.Recognises 0x40B5D513 "any" := by
  have ht : overlapping.Accepted := .loaded ofText_overlappingText
  have hi : ("any", ⟨0x13, .I, some (.code 5), none⟩) ∈ overlapping.instructions :=
    List.mem_of_getElem? (i := 1) rfl
  have ho : (⟨10, 11, 0, 0x40B⟩ : Operands).NameRegisters := by constructor <;> decide
  have hw : (⟨0x13, .I, some (.code 5), none⟩ : Instruction).encode ⟨10, 11, 0, 0x40B⟩
      = .ok 0x40B5D513 := by decide
  refine ⟨ht, hi, ho, hw, by decide, (ht.recognises_of_encode hi ho hw).1 ⟨fun _ => rfl, ?_⟩⟩
  rintro n ⟨⟩

/-- A table that gives an upper immediate a three-bit function code, which no word of it has. -/
def unplaced : InstructionTable where
  name := "custom"
  formats := [(0x37, .U)]
  instructions := [("lui", ⟨0x37, .U, some (.code 0), none⟩)]
  lookup_opcode := by decide

/-- A text that describes `unplaced`. -/
def unplacedText : String :=
  "\x7bformats: \x7b55: U\x7d, instructions: \x7blui: \x7bopcode: 55, funct3: 0\x7d\x7d\x7d"

set_option maxRecDepth 10000 in
theorem ofText_unplacedText : ofText unplacedText = .ok unplaced := by
  cbv

/-- The only instruction of a table encodes a word, and the word has no mnemonic. -/
theorem not_recognises_unplaced :
    unplaced.Accepted ∧ ("lui", ⟨0x37, .U, some (.code 0), none⟩) ∈ unplaced.instructions ∧
      (⟨10, 0, 0, 1⟩ : Operands).NameRegisters ∧
      (⟨0x37, .U, some (.code 0), none⟩ : Instruction).encode ⟨10, 0, 0, 1⟩ = .ok 0x1537 ∧
      unplaced.decode 0x1537 = .ok ⟨0x1537, 0x37, .U 10 1⟩ ∧
      unplaced.mnemonic? ⟨0x1537, 0x37, .U 10 1⟩ = none ∧ ¬ unplaced.Recognises 0x1537 "lui" := by
  have hi : ("lui", ⟨0x37, .U, some (.code 0), none⟩) ∈ unplaced.instructions :=
    List.mem_singleton.mpr rfl
  have ho : (⟨10, 0, 0, 1⟩ : Operands).NameRegisters := by constructor <;> decide
  have hd : unplaced.decode 0x1537 = .ok ⟨0x1537, 0x37, .U 10 1⟩ := by decide
  have hnone : unplaced.mnemonic? ⟨0x1537, 0x37, .U 10 1⟩ = none := by decide
  refine ⟨.loaded ofText_unplacedText, hi, ho, by decide, hd, hnone, ?_⟩
  rintro ⟨d, m', hd', hm', -⟩
  obtain rfl := Except.ok.inj (hd.symm.trans hd')
  cases hnone.symm.trans hm'

end InstructionTable

end RiscvAssembler
