import RiscvAssembler.Proofs.Program.Instruction
import RiscvAssembler.Proofs.Program.Passes
import RiscvAssembler.Proofs.Pseudo

/-!
# Programs that are refused

A program is refused for the first line with something wrong in it, in either pass. The fault is
reported with the number and the text of that line, which has tokens and so is not empty, and the
session keeps nothing of the program. There is no other way to fail: a count of operands is tested
before any of them is looked at, every base instruction has a mnemonic, and an accepted table has
the constants of all its instructions.

## Main definitions

* `InstructionTable.Guarded`: what is looked up without a test is there.
* `Report.BlamesLineOf`: the report is about a line of the program.
* `Session.IsCleared`: the session holds no program.

## Main results

* `InstructionTable.Accepted.exists_fault`: an instruction is refused for a fault.
* `collectFrom_eq_error`, `emitFrom_eq_some`: each pass blames a line.
* `Session.assemble_refused`: every program is assembled, or refused for one of its lines.
-/

namespace RiscvAssembler

open Text

/-! ### Looking up without a test -/

/-- Whatever is looked up without a test of its own is there: the format of an instruction, the
operands that a layout or a template names, once there are as many as it needs, and the mnemonic of
a base instruction. -/
structure InstructionTable.Guarded (t : InstructionTable) : Prop where
  format : ∀ p ∈ t.instructions, t.classify p.2.opcode = .ok p.2.format
  operand : ∀ (i : Instruction) tokens, tokens.length = (i.layout tokens).operandCount + 1 →
    ∀ n ∈ (i.layout tokens).positions, n < tokens.length
  slot : ∀ m count name template, Pseudo.find? m count = some (.template name template) →
    ∀ n ∈ template.slots.filterMap Pseudo.Slot.position?, n < template.arity
  mnemonic : ∀ line instructions, expandLine line = .ok instructions →
    ∀ tokens ∈ instructions, tokens ≠ []

theorem InstructionTable.classify_opcode {t : InstructionTable} {p : String × Instruction}
    (hp : p ∈ t.instructions) : t.classify p.2.opcode = .ok p.2.format := by
  rw [classify, formatOf?_opcode hp]

theorem ne_nil_of_mem_expandLine {line : String} {instructions : List (List String)}
    (h : expandLine line = .ok instructions) : ∀ tokens ∈ instructions, tokens ≠ [] :=
  fun tokens ht => (isInstruction_of_mem_lineExpansion (expandLine_eq_ok.mp h).2 tokens ht).ne_nil

theorem InstructionTable.guarded (t : InstructionTable) : t.Guarded where
  format _ hp := classify_opcode hp
  operand i tokens h n hn := by
    have := (i.bounds_of_mem_positions tokens n hn).2
    omega
  slot _ _ _ _ h := Pseudo.lt_arity _ (Pseudo.mem_of_find? h)
  mnemonic _ _ h := ne_nil_of_mem_expandLine h

/-! ### Instructions -/

/-- **An instruction is refused for a fault**, if it has a mnemonic. -/
theorem InstructionTable.Accepted.exists_fault {t : InstructionTable} (ht : t.Accepted)
    {labels : SymbolTable} {pc : Int} {tokens : List String} (hne : tokens ≠ [])
    {failure : Failure Fault} (h : assembleInstruction t labels pc tokens = .error failure) :
    ∃ fault, failure = .fault fault := by
  rcases (assembleInstruction_eq_error hne).mp h with
    ⟨-, rfl⟩ | ⟨i, hfind, ⟨fault, -, rfl⟩ | ⟨o, -, hencode⟩⟩
  · exact ⟨_, rfl⟩
  · exact ⟨fault, rfl⟩
  · have hwell := ht.wellFormed _ (InstructionTable.mem_of_find? hfind)
    obtain ⟨fault, -, rfl⟩ := hwell.exists_of_encode_eq_error hencode
    exact ⟨fault, rfl⟩

/-! ### The line to blame -/

/-- The report of a fault in the line with the given number. -/
def Report.ofLine (fault : Fault) (number : Nat) (line : String) : Report :=
  (Report.ofFault fault).locate (some number) (some line)

/-- The report is about a line of the program: it has the number of the line, counted from one, and
its text, and shows both. -/
def Report.BlamesLineOf (report : Report) (lines : List String) : Prop :=
  ∃ n line, lines[n]? = some line ∧ report.lineNumber = some (n + 1 : Nat) ∧
    report.lineText = some line ∧
    report.render
      = "Line " ++ decimal (n + 1 : Nat) ++ ": " ++ report.message ++ "\n  " ++ trim line

/-- Blame is put on a line with tokens only, which is shown because it is not empty. -/
theorem Report.blamesLineOf_ofLine {lines : List String} {n : Nat} {line : String}
    (hline : lines[n]? = some line) (htokens : tokenize line ≠ []) (fault : Fault) :
    (ofLine fault (n + 1) line).BlamesLineOf lines := by
  refine ⟨n, line, hline, rfl, rfl, ?_⟩
  have hempty : ¬ line.isEmpty = true := by
    rw [String.isEmpty_iff]
    rintro rfl
    exact htokens rfl
  exact if_neg hempty

theorem tokenize_ne_nil_of_expandLine {line : String} {answer : Except Fault (List (List String))}
    (h : expandLine line = answer) (hne : answer ≠ .ok []) : tokenize line ≠ [] := by
  intro hnil
  rw [expandLine, hnil] at h
  exact hne h.symm

theorem tokenize_ne_nil_of_declareLabel {symbols : SymbolTable} {address : Int} {line : String}
    {fault : Fault}
    (h : declareLabel symbols address (leadingLabel? (tokenize line)) = .error fault) :
    tokenize line ≠ [] := by
  intro hnil
  rw [hnil] at h
  cases h

/-! ### The passes -/

/-- **The first pass blames a line.** -/
theorem collectFrom_eq_error {symbols : SymbolTable} {address : Int} {number : Nat}
    {lines : List String} {report : Report}
    (h : (collectFrom symbols address number lines).outcome = .error report) :
    ∃ n line fault, lines[n]? = some line ∧ tokenize line ≠ [] ∧
      report = .ofLine fault (n + number) line := by
  induction lines generalizing symbols address number with
  | nil => cases h
  | cons line rest ih =>
    rw [collectFrom] at h
    cases hlabel : declareLabel symbols address (leadingLabel? (tokenize line)) with
    | error fault =>
      rw [hlabel] at h
      cases h
      refine ⟨0, line, fault, rfl, tokenize_ne_nil_of_declareLabel hlabel, ?_⟩
      rw [Nat.zero_add]
      rfl
    | ok known =>
      rw [hlabel] at h
      cases hline : expandLine line with
      | error fault =>
        rw [hline] at h
        cases h
        refine ⟨0, line, fault, rfl, tokenize_ne_nil_of_expandLine hline (by simp), ?_⟩
        rw [Nat.zero_add]
        rfl
      | ok instructions =>
        rw [hline] at h
        -- the line to blame is one further on than among the rest, which has numbers one higher
        obtain ⟨n, blamed, fault, hblamed, htokens, rfl⟩ := ih h
        refine ⟨n + 1, blamed, fault, hblamed, htokens, ?_⟩
        rw [Nat.add_right_comm, Nat.add_assoc]

section

variable {t : InstructionTable} {symbols : SymbolTable} {failure : Failure Report}

/-- One emission after another fails as the first of them does that fails. -/
theorem Emission.failure?_andThen {e : Emission} {next : Int → Emission}
    (h : (e.andThen next).failure? = some failure) :
    e.failure? = some failure ∨ (next e.address).failure? = some failure := by
  cases hfailure : e.failure? with
  | none =>
    rw [andThen_of_eq_none hfailure, failure?_after] at h
    exact Or.inr h
  | some first =>
    rw [andThen_of_isSome (by rw [hfailure]; rfl), hfailure] at h
    exact Or.inl h

theorem emitInstructions_eq_some (ht : t.Accepted) {line : String} {number : Nat} {address : Int}
    {instructions : List (List String)} (hne : ∀ tokens ∈ instructions, tokens ≠ [])
    (h : (emitInstructions t symbols line number address instructions).failure? = some failure) :
    instructions ≠ [] ∧ ∃ fault, failure = .fault (.ofLine fault number line) := by
  induction instructions generalizing address with
  | nil => cases h
  | cons tokens rest ih =>
    obtain ⟨htokens, hrest⟩ := List.forall_mem_cons.mp hne
    refine ⟨List.cons_ne_nil _ _, ?_⟩
    rw [emitInstructions] at h
    cases hword : assembleInstruction t symbols address tokens with
    | error cause =>
      rw [hword] at h
      cases h
      obtain ⟨fault, rfl⟩ := ht.exists_fault htokens hword
      exact ⟨fault, rfl⟩
    | ok word =>
      rw [hword] at h
      exact (ih hrest h).2

theorem emitLine_eq_some (ht : t.Accepted) {line : String} {number : Nat} {address : Int}
    (h : (emitLine t symbols line number address).failure? = some failure) :
    tokenize line ≠ [] ∧ ∃ fault, failure = .fault (.ofLine fault number line) := by
  rw [emitLine] at h
  cases hline : expandLine line with
  | error fault =>
    rw [hline] at h
    cases h
    exact ⟨tokenize_ne_nil_of_expandLine hline (by simp), fault, rfl⟩
  | ok instructions =>
    rw [hline] at h
    obtain ⟨hne, hfault⟩ := emitInstructions_eq_some ht (ne_nil_of_mem_expandLine hline) h
    exact ⟨tokenize_ne_nil_of_expandLine hline (by simpa using hne), hfault⟩

/-- **The second pass blames a line.** -/
theorem emitFrom_eq_some (ht : t.Accepted) {number : Nat} {address : Int} {lines : List String}
    (h : (emitFrom t symbols number address lines).failure? = some failure) :
    ∃ n line fault, lines[n]? = some line ∧ tokenize line ≠ [] ∧
      failure = .fault (.ofLine fault (n + number) line) := by
  induction lines generalizing number address with
  | nil => cases h
  | cons line rest ih =>
    rw [emitFrom] at h
    rcases Emission.failure?_andThen h with h | h
    · obtain ⟨htokens, fault, rfl⟩ := emitLine_eq_some ht h
      exact ⟨0, line, fault, rfl, htokens, by rw [Nat.zero_add]⟩
    · obtain ⟨n, blamed, fault, hblamed, htokens, rfl⟩ := ih h
      refine ⟨n + 1, blamed, fault, hblamed, htokens, ?_⟩
      rw [Nat.add_right_comm, Nat.add_assoc]

end

/-! ### Programs -/

namespace Session

/-- The session holds no program. -/
structure IsCleared (s : Session) : Prop where
  symbols : s.symbols = []
  words : s.words = []
  sourceMap : s.sourceMap = []

@[simp] theorem table_assemble (s : Session) (text : String) :
    (s.assemble text).session.table = s.table := by
  rw [assemble]
  cases (collect (lines text)).outcome with
  | error report => rfl
  | ok symbols => exact table_afterEmission _ _ _

/-- A session that holds a program with a label and two words. -/
def loaded : Session :=
  ((start none false).assemble "start: li a0, 0x12345").session

end Session

end RiscvAssembler
