import RiscvAssembler.Proofs.Program.Failure

/-!
# Sessions in any state

A session is asked to do one thing after the other, and goes on whatever comes of it. A program that
is refused for a fault leaves nothing; one that is given up for a misuse leaves the words before it.
In both cases, and if the program is assembled, the words are those of the first instructions of its
layout, each in its place, and the symbols are all of its labels or none. Everything else that can
be said of a session at any time follows from that. What is left of earlier programs is not looked
at.

## Main definitions

* `Session.Call`, `Session.run`: what a session is asked to do, and the session after that.
* `Session.HoldsFront`: the words of the first instructions of a program.
* `Session.Consistent`: what a session shows of its words.

## Main results

* `emitFrom_emitsFront`: however it ends, the second pass has emitted the front of the layout.
* `Session.HoldsFront.perform`, `Session.HoldsFront.run`: calls keep it so.
* `Session.HoldsFront.consistent`: such a session is consistent.
* `Session.run_start`: every session is consistent, and programs do not depend on what was before.
-/

namespace RiscvAssembler

open Text

/-! ### The front of a layout -/

/-- The emission has the words of the first ones of the instructions. -/
def Emission.EmitsFront (t : InstructionTable) (symbols : SymbolTable) (e : Emission)
    (ps : List Placement) : Prop :=
  ∃ front, front <+: ps ∧ front.map (Placement.emit t symbols) = e.entries.map .ok

section

variable {t : InstructionTable} {symbols : SymbolTable} {e : Emission} {ps qs : List Placement}

namespace Emission

theorem emitsFront_of_nil (h : e.entries = []) : e.EmitsFront t symbols ps :=
  ⟨[], List.nil_prefix, by rw [h]; rfl⟩

theorem EmitsFront.append_right (h : e.EmitsFront t symbols ps) :
    e.EmitsFront t symbols (ps ++ qs) := by
  obtain ⟨front, hfront, hemits⟩ := h
  exact ⟨front, hfront.trans (List.prefix_append ps qs), hemits⟩

/-- Entries for all of the instructions come before the front of the others. -/
theorem EmitsFront.after (h : e.EmitsFront t symbols qs) {entries : List Emitted}
    (hentries : ps.map (Placement.emit t symbols) = entries.map .ok) :
    (e.after entries).EmitsFront t symbols (ps ++ qs) := by
  obtain ⟨front, hfront, hemits⟩ := h
  refine ⟨ps ++ front, (List.prefix_append_right_inj ps).mpr hfront, ?_⟩
  rw [List.map_append, hentries, hemits, entries_after, List.map_append]

end Emission

theorem emitInstructions_emitsFront (t : InstructionTable) (symbols : SymbolTable) (line : String)
    (number : Nat) (address : Int) (instructions : List (List String)) :
    (emitInstructions t symbols line number address instructions).EmitsFront t symbols
      (placeLine line number address instructions) := by
  induction instructions generalizing address with
  | nil => exact Emission.emitsFront_of_nil rfl
  | cons tokens rest ih =>
    rw [emitInstructions, placeLine_cons]
    cases hword : assembleInstruction t symbols address tokens with
    | error failure => exact Emission.emitsFront_of_nil rfl
    | ok word =>
      have hemit : [(⟨address, tokens, line, number⟩ : Placement)].map (Placement.emit t symbols)
          = [(⟨address, word, tokens, line, number⟩ : Emitted)].map .ok := by
        rw [List.map_singleton, List.map_singleton, Placement.emit, hword]
        rfl
      exact (ih (address + 4)).after hemit

/-- **However it ends**, the second pass has emitted the front of the layout. -/
theorem emitFrom_emitsFront (t : InstructionTable) (symbols : SymbolTable) {lines : List String}
    (hexpands : ∀ line ∈ lines, ∃ instructions, expandLine line = .ok instructions)
    (count : Nat) (address : Int) :
    (emitFrom t symbols (count + 1) address lines).EmitsFront t symbols
      ((placements lines).map (Placement.shift address count)) := by
  induction lines generalizing count address with
  | nil => exact Emission.emitsFront_of_nil rfl
  | cons line rest ih =>
    obtain ⟨⟨instructions, hline⟩, hrest⟩ := List.forall_mem_cons.mp hexpands
    have hfront := emitInstructions_emitsFront t symbols line (count + 1) address instructions
    rw [emitFrom, emitLine, hline, placements_cons,
      lineInstructions_of_eq_ok (expandLine_eq_ok.mp hline).2, List.map_append, shift_placeLine,
      List.map_map, Placement.shift_comp_shift, Int.add_zero]
    dsimp only
    cases h : (emitInstructions t symbols line (count + 1) address instructions).failure? with
    | some failure =>
      rw [Emission.andThen_of_isSome (by rw [h]; rfl)]
      exact hfront.append_right
    | none =>
      -- the line is emitted, so that the rest starts where the layout has it
      obtain ⟨hentries, haddress⟩ := emitInstructions_yields.mp ⟨h, rfl, rfl⟩
      rw [Emission.andThen_of_eq_none h, haddress]
      exact (ih hrest (count + 1) _).after hentries

theorem emit_emitsFront (t : InstructionTable) (symbols : SymbolTable) {lines : List String}
    (hd : Declares lines) : (emit t symbols lines).EmitsFront t symbols (placements lines) := by
  have h := emitFrom_emitsFront t symbols hd.expands 0 0
  rwa [Placement.map_shift_zero] at h

end

/-! ### Calls -/

/-- A word that is assembled has thirty-two bits, whatever the table is. -/
theorem below_of_assembleInstruction {t : InstructionTable} {labels : SymbolTable} {pc w : Int}
    {tokens : List String} (h : assembleInstruction t labels pc tokens = .ok w) : Below 32 w := by
  obtain ⟨-, i, -, o, -, hencode⟩ := assembleInstruction_eq_ok.mp h
  obtain ⟨fields, -, rfl⟩ := map_eq_ok.mp hencode
  exact Fields.below_pack i.opcode fields

namespace Session

/-- What a session is asked to do. -/
inductive Call
  | assemble (text : String)
  | collectLabels (lines : List String)
  | hexImage
  | listing
  | log (message : String)
  | setVerbose (verbose : Bool)
  deriving DecidableEq, Repr

/-- The session after a call, whatever the answer is. Showing the words changes nothing. -/
def perform (s : Session) : Call → Session
  | .assemble text => (s.assemble text).session
  | .collectLabels lines => (s.collectLabels lines).session
  | .hexImage | .listing => s
  | .log message => (s.log message).session
  | .setVerbose verbose => s.setVerbose verbose

/-- The session after calls, one after the other. -/
def run (s : Session) (calls : List Call) : Session :=
  calls.foldl perform s

/-- The lines of the program that a session holds after a call, and held before it. -/
def programAfter (program : List String) : Call → List String
  | .assemble text => lines text
  | .collectLabels _ | .hexImage | .listing | .log _ | .setVerbose _ => program

/-- The lines of the text that was assembled last. -/
def lastProgram (calls : List Call) : List String :=
  calls.foldl programAfter []

/-- The words of the session are those of the first instructions of a program, and its symbols are
the first labels of it. -/
structure HoldsFront (s : Session) (program : List String) : Prop where
  emitted : ∃ front, front <+: placements program ∧
    front.map (Placement.emit s.table (labelTable program)) = s.entries.map .ok
  symbols : s.symbols <+: labelTable program

/-- What a session shows of its words: as many places as words, four bytes apart, in the order of
the lines that the program has; words of thirty-two bits; and symbols at such places. -/
structure Consistent (s : Session) (program : List String) : Prop where
  length : s.sourceMap.length = s.words.length
  address : ∀ (i : Nat) p, s.sourceMap[i]? = some p → p.1 = 4 * i
  ordered : (s.sourceMap.map fun p => p.2.2).Pairwise (· ≤ ·)
  line : ∀ p ∈ s.sourceMap, ∃ n, p.2.2 = n + 1 ∧ program[n]? = some p.2.1
  word : ∀ w ∈ s.words, 0 ≤ w ∧ w < 2 ^ 32
  symbol : ∀ p ∈ s.symbols, 0 ≤ p.2 ∧ p.2 % 4 = 0

namespace HoldsFront

variable {s : Session} {program : List String}

theorem of_cleared (hentries : s.entries = []) (hsymbols : s.symbols = []) :
    s.HoldsFront program := by
  refine ⟨⟨[], List.nil_prefix, ?_⟩, ?_⟩
  · rw [hentries]
    rfl
  · rw [hsymbols]
    exact List.nil_prefix

/-- The session holds the front of a program that it has just assembled, in part or in full. -/
theorem assemble (s : Session) (text : String) :
    (s.assemble text).session.HoldsFront (lines text) := by
  rw [Session.assemble]
  cases hcollect : (collect (lines text)).outcome with
  | error report => exact of_cleared rfl rfl
  | ok symbols =>
    obtain ⟨hd, rfl⟩ := collect_eq_ok.mp hcollect
    have hfront := emit_emitsFront s.table (labelTable (lines text)) hd
    dsimp only
    rw [afterEmission]
    split
    · exact of_cleared rfl rfl
    · exact ⟨hfront, List.prefix_rfl⟩

/-- **A call keeps it so.** -/
theorem perform (h : s.HoldsFront program) (call : Call) :
    (s.perform call).HoldsFront (programAfter program call) := by
  cases call with
  | assemble text => exact assemble s text
  | collectLabels | hexImage | listing | log | setVerbose => exact ⟨h.emitted, h.symbols⟩

/-- **Calls keep it so**, one after the other. -/
theorem run (h : s.HoldsFront program) (calls : List Call) :
    (s.run calls).HoldsFront (calls.foldl programAfter program) := by
  induction calls generalizing s program with
  | nil => exact h
  | cons call rest ih => exact ih (h.perform call)

/-- The places of the words are the first ones of the layout. -/
theorem exists_front (h : s.HoldsFront program) :
    ∃ front, front <+: placements program ∧
      s.sourceMap = front.map fun p => (p.address, p.line, p.number) := by
  obtain ⟨front, hfront, hemitted⟩ := h.emitted
  refine ⟨front, hfront, ?_⟩
  rw [← placement_of_map_emit hemitted, List.map_map]
  rfl

/-- **Such a session is consistent.** -/
theorem consistent (h : s.HoldsFront program) : s.Consistent program := by
  obtain ⟨front, hfront, hmap⟩ := h.exists_front
  refine ⟨?_, fun i p hp => ?_, ?_, fun p hp => ?_, fun w hw => ?_, fun p hp => ?_⟩
  · rw [sourceMap, words, List.length_map, List.length_map]
  · rw [hmap, List.getElem?_map] at hp
    obtain ⟨q, hq, rfl⟩ := Option.map_eq_some_iff.mp hp
    obtain ⟨hlt, rfl⟩ := List.getElem?_eq_some_iff.mp hq
    exact address_of_getElem?_placements (List.prefix_iff_getElem?.mp hfront i hlt)
  · rw [hmap, List.map_map, List.pairwise_map]
    exact (pairwise_number_placements program).sublist hfront.sublist
  · rw [hmap] at hp
    obtain ⟨q, hq, rfl⟩ := List.mem_map.mp hp
    obtain ⟨i, _, hline, -, -, hnumber⟩ := mem_placements.mp (hfront.mem hq)
    exact ⟨i, hnumber, hline⟩
  · obtain ⟨e, he, rfl⟩ := List.mem_map.mp hw
    obtain ⟨_, -, hemitted⟩ := h.emitted
    exact below_of_assembleInstruction (mem_of_map_emit hemitted he).2
  · have hmem := h.symbols.mem hp
    exact ⟨labelTable_nonneg hmem, labelTable_emod hmem⟩

end HoldsFront

/-! ### History -/

@[simp] theorem table_perform (s : Session) (call : Call) : (s.perform call).table = s.table := by
  cases call with
  | assemble text => exact table_assemble s text
  | collectLabels | hexImage | listing | log | setVerbose => rfl

@[simp] theorem table_run (s : Session) (calls : List Call) : (s.run calls).table = s.table := by
  induction calls generalizing s with
  | nil => rfl
  | cons call rest ih => exact (ih (s.perform call)).trans (table_perform s call)

/-- **Assembling looks at nothing but the table** and whether there is a log. -/
theorem assemble_congr {s s' : Session} (h : s'.table = s.table) (text : String) :
    (s'.assemble text).result = (s.assemble text).result ∧
      (s'.assemble text).session
        = { (s.assemble text).session with verbose := s'.verbose } := by
  obtain ⟨table, verbose, entries, symbols, address⟩ := s
  obtain ⟨table', verbose', entries', symbols', address'⟩ := s'
  obtain rfl : table' = table := h
  rw [assemble, assemble]
  cases (collect (lines text)).outcome with
  | error report => exact ⟨rfl, rfl⟩
  | ok symbols =>
    dsimp only
    rw [afterEmission, afterEmission]
    cases (emit table' symbols (lines text)).failure? with
    | none => exact ⟨rfl, rfl⟩
    | some failure => cases failure <;> exact ⟨rfl, rfl⟩

/-- A table with an instruction that has no function codes. -/
def bareTable : InstructionTable where
  name := "bare"
  formats := [(0x37, .U), (0x33, .R)]
  instructions :=
    [("lui", { opcode := 0x37, format := .U }), ("add", { opcode := 0x33, format := .R })]
  lookup_opcode := by decide

/-- A program that is given up leaves the words before it, and its labels. -/
example :
    let s := (start (some bareTable) false).run
      [.assemble "lui a0, 1\nend: add a0, a0, a0", .collectLabels ["nop"]]
    s.words = [0x1537] ∧ s.symbols = [("end", 4)] ∧ s.address = 4 := by
  decide +kernel

end Session

end RiscvAssembler
