import RiscvAssembler.Proofs.Program.History

/-!
# The table that is given

A session encodes every base instruction by what its own table says about the mnemonic, and a
mnemonic that is missing there is refused. Expansion comes before that and looks at no table, so a
table cannot give a meaning of its own to the name of a pseudo-instruction.

## Main definitions

* `Instruction.HasConstants`: the word has the constants of the instruction.
* `Emitted.IsBuiltBy`: the word was built by the instruction from its operands.
* `Session.KeepsTo`: the words of mnemonics in the table are those of their instructions.
* `Session.StartedWith`: the table was given to the session.

## Main results

* `Instruction.hasConstants_of_encode`: the words of an instruction have its constants.
* `Session.not_keepsTo_shadowing`: the name of a pseudo-instruction in a table is not looked up.
* `Session.assemble_keepsTo`: every other mnemonic is.
-/

namespace RiscvAssembler

open Text

/-! ### Words of an instruction -/

namespace Instruction

/-- The word has the constants of the instruction, where words of its format have them: the opcode,
and the function codes that the format stores. -/
structure HasConstants (i : Instruction) (w : Int) : Prop where
  opcode : slice 0 7 w = i.opcode % 2 ^ 7
  funct3 : i.format.hasFunct3 = true →
    ∃ n ∈ i.funct3.bind FunctionCode.number?, slice 12 3 w = n % 2 ^ 3
  funct7 : i.format = .R ∨ i.format = .I → ∀ n ∈ i.funct7, slice 25 7 w = n % 2 ^ 7
  isSome_funct7 : i.format.hasFunct7 = true → i.funct7.isSome = true

section

variable {i : Instruction} {n : Int}

theorem neededFunct3_eq_ok :
    i.neededFunct3 = .ok n ↔ i.funct3.bind FunctionCode.number? = some n := by
  rw [neededFunct3]
  cases i.funct3.bind FunctionCode.number? <;> simp

theorem neededFunct7_eq_ok : i.neededFunct7 = .ok n ↔ i.funct7 = some n := by
  rw [neededFunct7]
  cases i.funct7 <;> simp

theorem immediateField_eq_ok {imm : Int} (h : i.immediateField imm = .ok n) {funct7 : Int}
    (hfunct7 : i.funct7 = some funct7) : n = funct7 * 32 + imm % 32 := by
  rw [immediateField, hfunct7] at h
  obtain ⟨_, -, h⟩ := bind_eq_ok.mp h
  exact (pure_eq_ok.mp h).symm

/-- **The words of an instruction have its constants**, whatever table it comes from. -/
theorem hasConstants_of_encode {o : Operands} {w : Int} (h : i.encode o = .ok w) :
    i.HasConstants w := by
  obtain ⟨f, hf, rfl⟩ := map_eq_ok.mp h
  have hopcode := Fields.slice_opcode_pack i.opcode f
  have hfunct3 : ∀ {n}, i.neededFunct3 = .ok n → f.funct3? = some n →
      ∃ n ∈ i.funct3.bind FunctionCode.number?, slice 12 3 (f.pack i.opcode) = n % 2 ^ 3 :=
    fun hn hfound => ⟨_, neededFunct3_eq_ok.mp hn, Fields.slice_funct3_pack hfound⟩
  cases hformat : i.format <;> rw [hformat, fields] at hf
  case R =>
    obtain ⟨n, hn, hf⟩ := bind_eq_ok.mp hf
    obtain ⟨m, hm, hf⟩ := bind_eq_ok.mp hf
    obtain rfl := pure_eq_ok.mp hf
    rw [neededFunct7_eq_ok] at hm
    refine ⟨hopcode, fun _ => hfunct3 hn rfl, fun _ k hk => ?_, fun _ => ?_⟩
    · obtain rfl := Option.some.inj (hm.symm.trans hk)
      exact Fields.slice_selector_pack (.inl rfl)
    · rw [hm]
      rfl
  case I =>
    obtain ⟨imm, himm, hf⟩ := bind_eq_ok.mp hf
    obtain ⟨n, hn, hf⟩ := bind_eq_ok.mp hf
    obtain rfl := pure_eq_ok.mp hf
    refine ⟨hopcode, fun _ => hfunct3 hn rfl, fun _ k hk => ?_, by simp [hformat, Format.hasFunct7]⟩
    rw [Fields.slice_selector_pack (.inr rfl), immediateField_eq_ok (liftFault_eq_ok.mp himm) hk]
    change slice 5 7 _ % 2 ^ 7 = _
    rw [slice_def]
    omega
  case S | B =>
    obtain ⟨_, -, hf⟩ := bind_eq_ok.mp hf
    obtain ⟨n, hn, hf⟩ := bind_eq_ok.mp hf
    obtain rfl := pure_eq_ok.mp hf
    exact ⟨hopcode, fun _ => hfunct3 hn rfl, by simp [hformat], by simp [hformat, Format.hasFunct7]⟩
  case U | J =>
    exact ⟨hopcode, by simp [hformat, Format.hasFunct3], by simp [hformat],
      by simp [hformat, Format.hasFunct7]⟩

end

end Instruction

/-! ### Words of a program -/

/-- The word was built by the instruction from the operands of its tokens. -/
structure Emitted.IsBuiltBy (e : Emitted) (i : Instruction) (symbols : SymbolTable) : Prop where
  encodes : ∃ o, readOperands i e.tokens symbols e.address = .ok o ∧ i.encode o = .ok e.word
  hasConstants : i.HasConstants e.word

/-- A word that is assembled was built by the instruction that the table has for its mnemonic. -/
theorem Emitted.exists_isBuiltBy {t : InstructionTable} {symbols : SymbolTable} {e : Emitted}
    (h : assembleInstruction t symbols e.address e.tokens = .ok e.word) :
    ∃ i, t.find? (e.tokens.headD "") = some i ∧ e.IsBuiltBy i symbols := by
  obtain ⟨-, i, hi, o, ho, hw⟩ := assembleInstruction_eq_ok.mp h
  exact ⟨i, hi, ⟨o, ho, hw⟩, Instruction.hasConstants_of_encode hw⟩

/-- Of a session that holds a program, every line whose mnemonic is in the table has one word, built
by the instruction of that mnemonic, unless the mnemonic is one of the `names`. -/
def Session.KeepsTo (s : Session) (t : InstructionTable) (names program : List String) : Prop :=
  ∀ (n : Nat) line mnemonic operands i, program[n]? = some line →
    stripLabel (tokenize line) = mnemonic :: operands → lowercase mnemonic ∉ names →
    t.find? mnemonic = some i →
      ∃ e, s.entries.filter (fun e => e.number == n + 1) = [e] ∧ e.IsBuiltBy i s.symbols

namespace Session

variable {s : Session} {program : List String}

/-- A line whose mnemonic is not always expanded has one word, built by the instruction that the
table of the session has for this mnemonic. -/
theorem Holds.exists_isBuiltBy (h : s.Holds program) {n : Nat} {line mnemonic : String}
    {operands : List String} (hn : program[n]? = some line)
    (htokens : stripLabel (tokenize line) = mnemonic :: operands)
    (hm : lowercase mnemonic ∉ Pseudo.names) :
    ∃ e i, s.entries.filter (fun e => e.number == n + 1) = [e] ∧
      s.table.find? mnemonic = some i ∧ e.IsBuiltBy i s.symbols := by
  obtain ⟨instructions, hline⟩ := h.declares.expands line (List.mem_of_getElem? hn)
  have hexpansion := (expandLine_eq_ok.mp hline).2
  rcases lineExpansion_eq_ok hexpansion with ⟨hnil, -⟩ | ⟨-, hexpands⟩
  · rw [htokens] at hnil
    cases hnil
  · rw [htokens] at hexpands
    obtain ⟨tokens, rfl, hbase⟩ := hexpands.eq_singleton hm
    obtain ⟨e, he, hfilter, rfl⟩ := h.exists_entry hn (lineInstructions_of_eq_ok hexpansion)
    have hword := (h.assembled he).2
    rw [← h.symbols] at hword
    obtain ⟨i, hi, hbuilt⟩ := Emitted.exists_isBuiltBy hword
    rw [InstructionTable.find?, hbase, ← InstructionTable.find?] at hi
    exact ⟨e, i, hfilter, hi, hbuilt⟩

/-- A session that holds a program keeps to its table, but for the names of pseudo-instructions. -/
theorem Holds.keepsTo (h : s.Holds program) : s.KeepsTo s.table Pseudo.names program := by
  intro n line mnemonic operands i hn htokens hm hi
  obtain ⟨e, i', hfilter, hi', hbuilt⟩ := h.exists_isBuiltBy hn htokens hm
  obtain rfl := Option.some.inj (hi.symm.trans hi')
  exact ⟨e, hfilter, hbuilt⟩

/-- A table that gives a meaning of its own to a pseudo-instruction. -/
def shadowing : InstructionTable where
  name := "custom"
  formats := [(0x13, .I), (0x37, .U)]
  instructions :=
    [("addi", InstructionTable.immediateOperation 0), ("li", { opcode := 0x37, format := .U })]
  lookup_opcode := by decide

/-- A table without instructions. -/
def blank : InstructionTable where
  name := "blank"
  formats := []
  instructions := []
  lookup_opcode := by decide

/-- The name of a pseudo-instruction is not looked up, so that the word has the opcode of another
instruction; and a table without instructions is not used. -/
theorem not_keepsTo_shadowing :
    ((start (some shadowing) false).assemble "li a0, 5").result = .ok [0x00500513] ∧
      ¬ ((start (some shadowing) false).assemble "li a0, 5").session.KeepsTo shadowing []
        (lines "li a0, 5") ∧
      blank.size = 0 ∧ blank.find? "add" = none ∧ isPseudo ["add", "a0", "a1", "a2"] = false ∧
      ((start (some blank) false).assemble "add a0, a1, a2").result = .ok [0x00C58533] := by
  refine ⟨by decide +kernel, fun h => ?_, rfl, rfl, by decide +kernel, by decide +kernel⟩
  obtain ⟨e, he, hbuilt⟩ := h 0 "li a0, 5" "li" ["a0", "5"] { opcode := 0x37, format := .U }
    (by decide +kernel) (by decide +kernel) List.not_mem_nil (by rfl)
  have hentries : ((start (some shadowing) false).assemble "li a0, 5").session.entries
      = [⟨0, 0x00500513, ["addi", "a0", "x0", "5"], "li a0, 5", 1⟩] := by decide +kernel
  rw [hentries] at he
  obtain rfl := (List.cons_eq_cons.mp he).1
  exact absurd hbuilt.hasConstants.opcode (by decide)

/-- The session was started against the table, and was asked to do anything since. -/
def StartedWith (s : Session) (t : InstructionTable) : Prop :=
  ∃ verbose calls, s = (start (some t) verbose).run calls

/-- A session against a table that has instructions uses that table, at any time. -/
theorem StartedWith.table_eq {t : InstructionTable} (h : s.StartedWith t) (ht : t.size ≠ 0) :
    s.table = t := by
  obtain ⟨verbose, calls, rfl⟩ := h
  rw [table_run]
  exact if_neg ht

/-- **A table that is given is the one that is used**, if it has instructions. Every word is built
by the instruction that the table has for the mnemonic of the base instruction. A mnemonic that is
not the name of a pseudo-instruction stands for the instruction that the table has under it, and is
refused if the table has none. -/
theorem assemble_keepsTo {t : InstructionTable} (ht : t.size ≠ 0) (hs : s.StartedWith t)
    (text : String) :
    (∀ words, (s.assemble text).result = .ok words →
      (s.assemble text).session.words = words ∧
        (s.assemble text).session.KeepsTo t Pseudo.names (lines text) ∧
        ∀ e ∈ (s.assemble text).session.entries, ∃ i, t.find? (e.tokens.headD "") = some i ∧
          e.IsBuiltBy i (s.assemble text).session.symbols) ∧
      ∀ line ∈ lines text, ∀ mnemonic operands, stripLabel (tokenize line) = mnemonic :: operands →
        lowercase mnemonic ∉ Pseudo.names → t.find? mnemonic = none →
          ∀ words, (s.assemble text).result ≠ .ok words := by
  have hheld : ∀ words, (s.assemble text).result = .ok words →
      (s.assemble text).session.Holds (lines text) ∧
        (s.assemble text).session.words = words ∧ (s.assemble text).session.table = t := by
    intro words h
    have hholds := holds_of_ok h
    rwa [hs.table_eq ht] at hholds
  refine ⟨fun words h => ?_, fun line hline mnemonic operands htokens hm hnone words h => ?_⟩
  · obtain ⟨hholds, hwords, htable⟩ := hheld words h
    have hkeeps := hholds.keepsTo
    rw [htable] at hkeeps
    refine ⟨hwords, hkeeps, fun e he => ?_⟩
    have hword := (hholds.assembled he).2
    rw [htable, ← hholds.symbols] at hword
    exact Emitted.exists_isBuiltBy hword
  · obtain ⟨hholds, -, htable⟩ := hheld words h
    obtain ⟨n, hn⟩ := List.mem_iff_getElem?.mp hline
    obtain ⟨_, i, -, hi, -⟩ := hholds.exists_isBuiltBy hn htokens hm
    rw [htable, hnone] at hi
    cases hi

/-- A table in which two instructions have changed names. -/
def swapped : InstructionTable where
  name := "swapped"
  formats := [(0x13, .I)]
  instructions :=
    [("addi", InstructionTable.immediateOperation 4),
     ("xori", InstructionTable.immediateOperation 0)]
  lookup_opcode := by decide

theorem assemble_keepsTo_swapped :
    let s := (start (some swapped) false).run [.assemble "addi", .setVerbose true]
    (s.assemble "ADDI a0, x0, 5\nli a1, 5").result = .ok [0x00504513, 0x00504593] ∧
      (s.assemble "ADDI a0, x0, 5\nli a1, 5").session.KeepsTo swapped Pseudo.names
        (lines "ADDI a0, x0, 5\nli a1, 5") ∧
      ∀ words, (s.assemble "slti a0, x0, 5").result ≠ .ok words := by
  intro s
  have hs : s.StartedWith swapped := ⟨_, _, rfl⟩
  have hsize : swapped.size ≠ 0 := by decide
  have hresult : (s.assemble "ADDI a0, x0, 5\nli a1, 5").result
      = .ok [0x00504513, 0x00504593] := by decide +kernel
  refine ⟨hresult, ((assemble_keepsTo hsize hs _).1 _ hresult).2.1, ?_⟩
  exact (assemble_keepsTo hsize hs "slti a0, x0, 5").2 "slti a0, x0, 5" (by decide +kernel) "slti"
    ["a0", "x0", "5"] (by decide +kernel) (by decide +kernel) rfl

end Session

end RiscvAssembler
