import RiscvAssembler.Program.Session
import RiscvAssembler.Proofs.Answer
import RiscvAssembler.Proofs.Dictionary
import RiscvAssembler.Proofs.Program.Layout

/-!
# The two passes and the layout

Both passes count addresses as they go along. The first one stops at a label that it knows and at a
line that it cannot expand, and otherwise finds the labels of the layout. The second one then
encodes the instructions of the layout one after the other, each in its place.

## Main results

* `resolveLabels_eq_ok`: the first pass answers with the labels of the layout.
* `emitFrom_yields`: the second pass encodes the instructions of the layout.
* `Session.holds_of_ok`: what a session keeps of a program that is assembled.
* `Session.assemble_iff_assembles`: what a program assembles to, without the passes.
-/

namespace RiscvAssembler

open Text

/-! ### The first pass -/

/-- No name has two addresses. -/
def DistinctLabels (symbols : SymbolTable) : Prop :=
  (symbols.map Prod.fst).Nodup

/-- The lines of a program all have a meaning, and no label is defined twice. -/
structure Declares (lines : List String) : Prop where
  expands : ∀ line ∈ lines, ∃ instructions, expandLine line = .ok instructions
  distinct : DistinctLabels (labelTable lines)

/-- A line leaves the symbols with its own label at the end, if it has one and it is new. -/
theorem declareLabel_eq_ok {symbols table : SymbolTable} {address : Int} {label? : Option String}
    (hs : DistinctLabels symbols) :
    declareLabel symbols address label? = .ok table ↔
      DistinctLabels table ∧
        table = symbols ++ (label?.map fun label => (label, address)).toList := by
  cases label? with
  | none =>
    rw [declareLabel, Option.map_none, Option.toList_none, List.append_nil]
    constructor
    · rintro ⟨⟩
      exact ⟨hs, rfl⟩
    · rintro ⟨-, rfl⟩
      rfl
  | some label =>
    have hdistinct : DistinctLabels (symbols ++ [(label, address)]) ↔
        ¬ Dictionary.contains label symbols = true := by
      rw [DistinctLabels, List.map_append, List.map_singleton, List.nodup_append,
        Dictionary.contains_iff]
      constructor
      · rintro ⟨-, -, hnew⟩ hl
        exact hnew label hl label (List.mem_singleton_self _) rfl
      · intro hl
        refine ⟨hs, List.pairwise_singleton _ _, fun name hname other hother => ?_⟩
        rw [List.mem_singleton.mp hother]
        rintro rfl
        exact hl hname
    rw [declareLabel]
    split
    · rename_i hc
      constructor
      · rintro ⟨⟩
      · rintro ⟨htable, rfl⟩
        exact absurd hc (hdistinct.mp htable)
    · rename_i hc
      constructor
      · rintro ⟨⟩
        exact ⟨hdistinct.mpr hc, rfl⟩
      · rintro ⟨-, rfl⟩
        rfl

/-- The first pass takes one line after the other. -/
theorem collectFrom_cons_eq_ok {symbols table : SymbolTable} {address : Int} {number : Nat}
    {line : String} {rest : List String} :
    (collectFrom symbols address number (line :: rest)).outcome = .ok table ↔
      ∃ known, declareLabel symbols address (leadingLabel? (tokenize line)) = .ok known ∧
        ∃ instructions, expandLine line = .ok instructions ∧
          (collectFrom known (address + 4 * instructions.length) (number + 1) rest).outcome
            = .ok table := by
  rw [collectFrom]
  cases declareLabel symbols address (leadingLabel? (tokenize line)) with
  | error fault => simp [Collection.failed]
  | ok known =>
    cases expandLine line with
    | error fault => simp [Collection.failed]
    | ok instructions => simp

/-- Labels that are distinct with more after them are distinct. -/
theorem DistinctLabels.of_append {symbols more : SymbolTable}
    (h : DistinctLabels (symbols ++ more)) : DistinctLabels symbols := by
  rw [DistinctLabels, List.map_append] at h
  exact h.sublist (List.sublist_append_left ..)

/-- **The first pass from any line on.** It keeps the symbols that it has, and puts the labels of
the lines after them. -/
theorem collectFrom_eq_ok {symbols table : SymbolTable} (hs : DistinctLabels symbols)
    (address : Int) (number : Nat) (lines : List String) :
    (collectFrom symbols address number lines).outcome = .ok table ↔
      (∀ line ∈ lines, ∃ instructions, expandLine line = .ok instructions) ∧ DistinctLabels table ∧
        table = symbols ++ shiftLabels address (labelTable lines) := by
  induction lines generalizing symbols address number with
  | nil =>
    rw [collectFrom, labelTable_nil, shiftLabels, List.map_nil, List.append_nil]
    constructor
    · rintro ⟨⟩
      exact ⟨fun _ h => absurd h List.not_mem_nil, hs, rfl⟩
    · rintro ⟨-, -, rfl⟩
      rfl
  | cons line rest ih =>
    rw [collectFrom_cons_eq_ok, List.forall_mem_cons, shiftLabels_labelTable_cons,
      ← List.append_assoc]
    constructor
    · rintro ⟨known, hknown, instructions, hline, hrest⟩
      obtain ⟨hdistinct, rfl⟩ := (declareLabel_eq_ok hs).mp hknown
      obtain ⟨hexpands, htable, rfl⟩ := (ih hdistinct _ _).mp hrest
      rw [lineInstructions_of_eq_ok (expandLine_eq_ok.mp hline).2]
      exact ⟨⟨⟨instructions, hline⟩, hexpands⟩, htable, rfl⟩
    · rintro ⟨⟨⟨instructions, hline⟩, hexpands⟩, htable, heq⟩
      rw [lineInstructions_of_eq_ok (expandLine_eq_ok.mp hline).2] at heq
      -- the final table starts with the symbols known after this line, so these are distinct too
      have hdistinct := (heq ▸ htable).of_append
      exact ⟨_, (declareLabel_eq_ok hs).mpr ⟨hdistinct, rfl⟩, instructions, hline,
        (ih hdistinct _ _).mpr ⟨hexpands, htable, heq⟩⟩

theorem collect_eq_ok {lines : List String} {table : SymbolTable} :
    (collect lines).outcome = .ok table ↔ Declares lines ∧ table = labelTable lines := by
  have hnil : DistinctLabels [] := List.nodup_nil
  rw [collect, Collection.outcome_after, collectFrom_eq_ok hnil, List.nil_append, shiftLabels_zero]
  constructor
  · rintro ⟨hexpands, hdistinct, rfl⟩
    exact ⟨⟨hexpands, hdistinct⟩, rfl⟩
  · rintro ⟨⟨hexpands, hdistinct⟩, rfl⟩
    exact ⟨hexpands, hdistinct, rfl⟩

theorem resolveLabels_eq_ok {text : String} {table : SymbolTable} :
    resolveLabels text = .ok table ↔ Declares (lines text) ∧ table = labelTable (lines text) :=
  collect_eq_ok

/-! ### The second pass -/

/-- The word of an instruction in its place. -/
def Placement.emit (t : InstructionTable) (symbols : SymbolTable) (p : Placement) :
    Except (Failure Fault) Emitted :=
  (assembleInstruction t symbols p.address p.tokens).map fun word =>
    ⟨p.address, word, p.tokens, p.line, p.number⟩

/-- The place of a word. -/
def Emitted.placement (e : Emitted) : Placement :=
  ⟨e.address, e.tokens, e.line, e.number⟩

@[simp] theorem Placement.map_word_emit (t : InstructionTable) (symbols : SymbolTable)
    (p : Placement) :
    (p.emit t symbols).map Emitted.word = assembleInstruction t symbols p.address p.tokens := by
  rw [emit]
  cases assembleInstruction t symbols p.address p.tokens <;> rfl

/-- The emission succeeds with the given words and reaches the given address. -/
structure Emission.Yields (e : Emission) (entries : List Emitted) (address : Int) : Prop where
  failure? : e.failure? = none
  entries : e.entries = entries
  address : e.address = address

namespace Emission

theorem yields_after {e : Emission} {entries front : List Emitted} {address : Int} :
    (e.after front).Yields entries address ↔
      ∃ rest, e.Yields rest address ∧ entries = front ++ rest := by
  constructor
  · rintro ⟨hfailure, hentries, haddress⟩
    exact ⟨e.entries, ⟨hfailure, rfl, haddress⟩, hentries.symm⟩
  · rintro ⟨rest, ⟨hfailure, rfl, haddress⟩, rfl⟩
    exact ⟨hfailure, rfl, haddress⟩

theorem not_yields_of_failure {e : Emission} {failure : Failure Report}
    (h : e.failure? = some failure) (entries : List Emitted) (address : Int) :
    ¬ e.Yields entries address := by
  rintro ⟨hfailure, -, -⟩
  rw [h] at hfailure
  cases hfailure

/-- One emission after another yields the words of both. -/
theorem yields_andThen {e : Emission} {next : Int → Emission} {entries : List Emitted}
    {address : Int} :
    (e.andThen next).Yields entries address ↔
      ∃ front middle, e.Yields front middle ∧
        ∃ rest, (next middle).Yields rest address ∧ entries = front ++ rest := by
  cases hfailure : e.failure? with
  | none =>
    rw [andThen_of_eq_none hfailure, yields_after]
    constructor
    · rintro ⟨rest, hrest, rfl⟩
      exact ⟨e.entries, e.address, ⟨hfailure, rfl, rfl⟩, rest, hrest, rfl⟩
    · rintro ⟨_, _, ⟨-, rfl, rfl⟩, hrest⟩
      exact hrest
  | some failure =>
    rw [andThen_of_isSome (by rw [hfailure]; rfl)]
    constructor
    · intro h
      exact absurd h (not_yields_of_failure hfailure _ _)
    · rintro ⟨front, middle, h, -⟩
      exact absurd h (not_yields_of_failure hfailure _ _)

end Emission

section

variable {t : InstructionTable} {symbols : SymbolTable}

/-- **The words of one line**, each in its place. -/
theorem emitInstructions_yields {line : String} {number : Nat} {address final : Int}
    {instructions : List (List String)} {entries : List Emitted} :
    (emitInstructions t symbols line number address instructions).Yields entries final ↔
      (placeLine line number address instructions).map (Placement.emit t symbols)
        = entries.map .ok ∧ final = address + 4 * instructions.length := by
  induction instructions generalizing address entries with
  | nil =>
    rw [emitInstructions, placeLine_nil, List.map_nil]
    constructor
    · rintro ⟨-, rfl, rfl⟩
      exact ⟨rfl, by simp⟩
    · rintro ⟨hentries, rfl⟩
      rw [List.map_eq_nil_iff.mp hentries.symm]
      exact ⟨rfl, rfl, by simp⟩
  | cons tokens rest ih =>
    rw [emitInstructions, placeLine_cons, List.map_cons, Placement.emit]
    cases hw : assembleInstruction t symbols address tokens with
    | error failure =>
      constructor
      · intro h
        exact absurd h (Emission.not_yields_of_failure rfl _ _)
      · rintro ⟨hentries, -⟩
        obtain ⟨e, _, -, he, -⟩ := List.map_eq_cons_iff.mp hentries.symm
        cases he
    | ok word =>
      dsimp only
      rw [Emission.yields_after]
      constructor
      · rintro ⟨tail, htail, rfl⟩
        obtain ⟨hmap, rfl⟩ := ih.mp htail
        rw [hmap, List.length_cons]
        exact ⟨rfl, by omega⟩
      · rintro ⟨hentries, hfinal⟩
        obtain ⟨e, tail, rfl, he, htail⟩ := List.map_eq_cons_iff.mp hentries.symm
        cases he
        rw [List.length_cons] at hfinal
        exact ⟨tail, ih.mpr ⟨htail.symm, by omega⟩, rfl⟩

/-- **The second pass from any line on** encodes the layout of the lines, moved to where they
are. -/
theorem emitFrom_yields {lines : List String}
    (hexpands : ∀ line ∈ lines, ∃ instructions, expandLine line = .ok instructions)
    {count : Nat} {address final : Int} {entries : List Emitted} :
    (emitFrom t symbols (count + 1) address lines).Yields entries final ↔
      ((placements lines).map (Placement.shift address count)).map (Placement.emit t symbols)
        = entries.map .ok ∧ final = address + codeSize lines := by
  induction lines generalizing count address entries with
  | nil =>
    rw [emitFrom, placements_nil, List.map_nil, List.map_nil, codeSize_nil]
    constructor
    · rintro ⟨-, rfl, rfl⟩
      exact ⟨rfl, by simp⟩
    · rintro ⟨hentries, rfl⟩
      rw [List.map_eq_nil_iff.mp hentries.symm]
      exact ⟨rfl, rfl, by simp⟩
  | cons line rest ih =>
    obtain ⟨⟨instructions, hline⟩, hrest⟩ := List.forall_mem_cons.mp hexpands
    rw [emitFrom, emitLine, hline, Emission.yields_andThen, placements_cons,
      lineInstructions_of_eq_ok (expandLine_eq_ok.mp hline).2, codeSize_cons,
      lineInstructions_of_eq_ok (expandLine_eq_ok.mp hline).2, List.map_append, shift_placeLine,
      List.map_map, Placement.shift_comp_shift, List.map_append, Int.add_zero]
    -- on both sides now the words of the line come before those of the rest
    constructor
    · rintro ⟨front, middle, hfront, tail, htail, rfl⟩
      obtain ⟨hmap, rfl⟩ := emitInstructions_yields.mp hfront
      obtain ⟨hmaps, rfl⟩ := (ih hrest).mp htail
      rw [hmap, hmaps, List.map_append]
      exact ⟨rfl, by omega⟩
    · rintro ⟨hentries, hfinal⟩
      obtain ⟨front, tail, rfl, hfront, htail⟩ := List.map_eq_append_iff.mp hentries.symm
      exact ⟨front, _, emitInstructions_yields.mpr ⟨hfront.symm, rfl⟩, tail,
        (ih hrest).mpr ⟨htail.symm, by omega⟩, rfl⟩

end

theorem emit_yields {t : InstructionTable} {symbols : SymbolTable} {lines : List String}
    (h : Declares lines) {entries : List Emitted} {final : Int} :
    (emit t symbols lines).Yields entries final ↔
      (placements lines).map (Placement.emit t symbols) = entries.map .ok
        ∧ final = codeSize lines := by
  rw [emit, ← Nat.zero_add 1, emitFrom_yields h.expands, Placement.map_shift_zero, Int.zero_add]

/-- The words emitted for a layout are in the places of the layout. -/
theorem placement_of_map_emit {t : InstructionTable} {symbols : SymbolTable} {ps : List Placement}
    {entries : List Emitted} (h : ps.map (Placement.emit t symbols) = entries.map .ok) :
    entries.map Emitted.placement = ps := by
  induction ps generalizing entries with
  | nil =>
    rw [List.map_eq_nil_iff.mp h.symm]
    rfl
  | cons p ps ih =>
    obtain ⟨e, entries, rfl, he, hentries⟩ := List.map_eq_cons_iff.mp h.symm
    obtain ⟨word, -, rfl⟩ := map_eq_ok.mp he.symm
    rw [List.map_cons, ih hentries.symm]
    rfl

/-- Every word emitted for a layout is that of the instruction in its place. -/
theorem mem_of_map_emit {t : InstructionTable} {symbols : SymbolTable} {ps : List Placement}
    {entries : List Emitted} (h : ps.map (Placement.emit t symbols) = entries.map .ok) {e : Emitted}
    (he : e ∈ entries) :
    e.placement ∈ ps ∧ assembleInstruction t symbols e.address e.tokens = .ok e.word := by
  have hok : Except.ok e ∈ ps.map (Placement.emit t symbols) := h ▸ List.mem_map_of_mem he
  obtain ⟨p, hp, hemit⟩ := List.mem_map.mp hok
  obtain ⟨word, hword, rfl⟩ := map_eq_ok.mp hemit
  exact ⟨hp, hword⟩

/-! ### Programs -/

/-- A program can be assembled: every line is short enough and has an expansion, no label is defined
twice, and every base instruction of the layout has a word in its place. -/
structure Assembles (t : InstructionTable) (lines : List String) : Prop where
  tokenCount : ∀ line ∈ lines, (tokenize line).length ≤ tokenLimit
  expands : ∀ line ∈ lines, ∃ instructions, lineExpansion line = .ok instructions
  distinct : DistinctLabels (labelTable lines)
  encodes : ∀ p ∈ placements lines,
    ∃ word, assembleInstruction t (labelTable lines) p.address p.tokens = .ok word

theorem assembles_iff {t : InstructionTable} {lines : List String} :
    Assembles t lines ↔ Declares lines ∧ ∃ entries : List Emitted,
      (placements lines).map (Placement.emit t (labelTable lines)) = entries.map .ok := by
  rw [exists_map_eq_ok]
  constructor
  · rintro ⟨hcount, hexpands, hdistinct, hencodes⟩
    refine ⟨⟨fun line hline => ?_, hdistinct⟩, fun p hp => ?_⟩
    · obtain ⟨instructions, h⟩ := hexpands line hline
      exact ⟨instructions, expandLine_eq_ok.mpr ⟨hcount line hline, h⟩⟩
    · obtain ⟨word, h⟩ := hencodes p hp
      exact ⟨_, map_eq_ok.mpr ⟨word, h, rfl⟩⟩
  · rintro ⟨⟨hexpands, hdistinct⟩, hemits⟩
    refine ⟨fun line hline => ?_, fun line hline => ?_, hdistinct, fun p hp => ?_⟩
    · obtain ⟨instructions, h⟩ := hexpands line hline
      exact (expandLine_eq_ok.mp h).1
    · obtain ⟨instructions, h⟩ := hexpands line hline
      exact ⟨instructions, (expandLine_eq_ok.mp h).2⟩
    · obtain ⟨e, h⟩ := hemits p hp
      obtain ⟨word, hword, -⟩ := map_eq_ok.mp h
      exact ⟨word, hword⟩

namespace Session

/-- The session holds the words of a program, each in its place, the labels of the program, and the
address after it. -/
structure Holds (s : Session) (lines : List String) : Prop where
  declares : Declares lines
  emitted : (placements lines).map (Placement.emit s.table (labelTable lines)) = s.entries.map .ok
  symbols : s.symbols = labelTable lines
  address : s.address = codeSize lines

namespace Holds

variable {s : Session} {lines : List String}

theorem map_words (h : s.Holds lines) :
    s.words.map .ok = (placements lines).map fun p =>
      assembleInstruction s.table (labelTable lines) p.address p.tokens := by
  have hwords := congrArg (List.map (Except.map Emitted.word)) h.emitted
  rw [List.map_map, List.map_map] at hwords
  rw [words, List.map_map]
  exact hwords.symm.trans (List.map_congr_left fun p _ => p.map_word_emit _ _)

theorem sourceMap_eq (h : s.Holds lines) :
    s.sourceMap = (placements lines).map fun p => (p.address, p.line, p.number) := by
  rw [← placement_of_map_emit h.emitted, List.map_map]
  rfl

theorem address_eq (h : s.Holds lines) : s.address = 4 * s.words.length := by
  have hlength := congrArg List.length h.emitted
  rw [List.length_map, List.length_map] at hlength
  rw [h.address, codeSize_eq, hlength, words, List.length_map]

/-- Every word is that of an instruction of the program. -/
theorem assembled (h : s.Holds lines) {e : Emitted} (he : e ∈ s.entries) :
    e.placement ∈ placements lines ∧
      assembleInstruction s.table (labelTable lines) e.address e.tokens = .ok e.word :=
  mem_of_map_emit h.emitted he

/-- **A line with one instruction** has one word, which is that of the instruction. -/
theorem exists_entry (h : s.Holds lines) {n : Nat} {line : String} {tokens : List String}
    (hn : lines[n]? = some line) (hline : lineInstructions line = [tokens]) :
    ∃ e ∈ s.entries, s.entries.filter (fun e => e.number == n + 1) = [e] ∧ e.tokens = tokens := by
  have hfilter := filter_placements hn
  rw [hline, ← placement_of_map_emit h.emitted, List.filter_map] at hfilter
  obtain ⟨e, he, hplacement⟩ := List.map_eq_singleton_iff.mp hfilter
  have hmem : e ∈ s.entries := (List.mem_filter.mp (he ▸ List.mem_singleton_self e)).1
  exact ⟨e, hmem, he, congrArg Placement.tokens hplacement⟩

end Holds

variable {s : Session} {text : String}

/-- What a program that passes both passes answers and leaves. -/
theorem assemble_of_yields {entries : List Emitted} {final : Int} (hd : Declares (lines text))
    (h : (emit s.table (labelTable (lines text)) (lines text)).Yields entries final) :
    (s.assemble text).result = .ok (entries.map (·.word)) ∧
      (s.assemble text).session
        = { s with entries, symbols := labelTable (lines text), address := final } := by
  rw [assemble, collect_eq_ok.mpr ⟨hd, rfl⟩]
  simp only [afterEmission, h.failure?, h.entries, h.address, and_self]

/-- A program that is assembled has passed both passes. -/
theorem exists_yields_of_ok {words : List Int} (h : (s.assemble text).result = .ok words) :
    Declares (lines text) ∧ ∃ entries final,
      (emit s.table (labelTable (lines text)) (lines text)).Yields entries final := by
  rw [assemble] at h
  cases hc : (collect (lines text)).outcome with
  | error report =>
    rw [hc] at h
    cases h
  | ok symbols =>
    rw [hc] at h
    obtain ⟨hd, rfl⟩ := collect_eq_ok.mp hc
    dsimp only at h
    cases hf : (emit s.table (labelTable (lines text)) (lines text)).failure? with
    | some failure =>
      rw [hf] at h
      cases h
    | none => exact ⟨hd, _, _, hf, rfl, rfl⟩

/-- **A program that is assembled is held** by the session after it. -/
theorem holds_of_ok {words : List Int} (h : (s.assemble text).result = .ok words) :
    (s.assemble text).session.Holds (lines text) ∧ (s.assemble text).session.words = words ∧
      (s.assemble text).session.table = s.table := by
  obtain ⟨hd, entries, final, hyields⟩ := exists_yields_of_ok h
  obtain ⟨hresult, hsession⟩ := assemble_of_yields hd hyields
  obtain ⟨hentries, hfinal⟩ := (emit_yields hd).mp hyields
  rw [hsession]
  exact ⟨⟨hd, hentries, rfl, hfinal⟩, Except.ok.inj (hresult.symm.trans h), rfl⟩

/-- The words of a program, from the words of the instructions in its layout. -/
theorem assemble_eq_ok {words : List Int} :
    (s.assemble text).result = .ok words ↔ Declares (lines text) ∧
      words.map .ok = (placements (lines text)).map fun p =>
        assembleInstruction s.table (labelTable (lines text)) p.address p.tokens := by
  constructor
  · intro h
    obtain ⟨hholds, rfl, htable⟩ := holds_of_ok h
    rw [← htable]
    exact ⟨hholds.declares, hholds.map_words⟩
  · rintro ⟨hd, hwords⟩
    have hemits : ∀ p ∈ placements (lines text),
        ∃ e, p.emit s.table (labelTable (lines text)) = .ok e := by
      intro p hp
      have hword := hwords ▸ List.mem_map_of_mem
        (f := fun p : Placement =>
          assembleInstruction s.table (labelTable (lines text)) p.address p.tokens) hp
      obtain ⟨word, -, hword⟩ := List.mem_map.mp hword
      exact ⟨_, map_eq_ok.mpr ⟨word, hword.symm, rfl⟩⟩
    obtain ⟨entries, hentries⟩ := exists_map_eq_ok.mpr hemits
    have hresult := (assemble_of_yields hd ((emit_yields hd).mpr ⟨hentries, rfl⟩)).1
    obtain ⟨hholds, hheld, htable⟩ := holds_of_ok hresult
    have hmap := hholds.map_words
    rw [hheld, htable, ← hwords] at hmap
    rw [hresult, (List.map_inj_right fun _ _ => Except.ok.inj).mp hmap]

/-- **What a program assembles to.** Nothing in it refers to the passes. -/
theorem assemble_iff_assembles (s : Session) (text : String) :
    ((∃ words, (s.assemble text).result = .ok words) ↔ Assembles s.table (lines text)) ∧
      ∀ words, (s.assemble text).result = .ok words →
        words.map .ok = (placements (lines text)).map
            (fun p => assembleInstruction s.table (labelTable (lines text)) p.address p.tokens) ∧
          resolveLabels text = .ok (labelTable (lines text)) ∧
          (s.assemble text).session.symbols = labelTable (lines text) ∧
          (s.assemble text).session.sourceMap
            = (placements (lines text)).map (fun p => (p.address, p.line, p.number)) ∧
          (s.assemble text).session.words = words ∧
          (s.assemble text).session.address = 4 * words.length := by
  refine ⟨?_, fun words h => ?_⟩
  · rw [assembles_iff]
    constructor
    · rintro ⟨words, h⟩
      obtain ⟨hd, entries, final, hyields⟩ := exists_yields_of_ok h
      exact ⟨hd, entries, ((emit_yields hd).mp hyields).1⟩
    · rintro ⟨hd, entries, hentries⟩
      exact ⟨_, (assemble_of_yields hd ((emit_yields hd).mpr ⟨hentries, rfl⟩)).1⟩
  · obtain ⟨hholds, hwords, htable⟩ := holds_of_ok h
    have hmap := hholds.map_words
    have haddress := hholds.address_eq
    rw [hwords, htable] at hmap
    rw [hwords] at haddress
    exact ⟨hmap, resolveLabels_eq_ok.mpr ⟨hholds.declares, rfl⟩, hholds.symbols,
      hholds.sourceMap_eq, hwords, haddress⟩

end Session

end RiscvAssembler
