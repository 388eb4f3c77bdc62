import RiscvAssembler.Proofs.Program.Failure

/-!
# Which fault is reported

A program may have many faults, and it is refused for one of them. The first pass looks at the
labels, the number of tokens and the expansion of every line, so a fault of this kind is reported
before any that an instruction has, wherever the two stand, and the one on the first such line is
reported. What comes after that line is not even looked at. Only where the first pass finds nothing
are instructions encoded, and then the first one that cannot be is to blame.

## Main definitions

* `lineFault?`: what the first pass has to say about a line, after the labels of earlier lines.
* `IsFirstFault`: the first line that the first pass refuses, and why.
* `IsFirstRefused`: the first base instruction that cannot be encoded, and why.

## Main results

* `collectFrom_of_faultAfter?`, `exists_collectFrom_eq_ok`: the first pass reports the first fault.
* `emitFrom_isFirstRefused`: the second pass reports the first refusal.
* `Session.assemble_reports`: the fault that a program is refused for.
-/

namespace RiscvAssembler

open Text

/-! ### Faults of a line -/

/-- The line defines a label that is known. -/
def duplicateFault? (known : List String) (line : String) : Option Fault :=
  match leadingLabel? (tokenize line) with
  | some label => if label ∈ known then some (.duplicateLabel label) else none
  | none => none

/-- The line has more tokens than it can use. -/
def tokenCountFault? (line : String) : Option Fault :=
  if (tokenize line).length ≤ tokenLimit then none
  else some (.tooManyTokens (tokenize line).length tokenLimit)

/-- The instruction of the line has no expansion. -/
def expansionFault? (line : String) : Option Fault :=
  match expand (stripLabel (tokenize line)) with
  | .ok _ => none
  | .error fault => some fault

/-- What is wrong with a line after lines that define the labels `known`. Of several faults the
label comes first, then the number of tokens. -/
def lineFault? (known : List String) (line : String) : Option Fault :=
  (duplicateFault? known line).or ((tokenCountFault? line).or (expansionFault? line))

section

variable {symbols : SymbolTable} {address : Int} {line : String} {fault : Fault}

/-- A label is refused exactly if its name is known. -/
theorem declareLabel_eq_error :
    declareLabel symbols address (leadingLabel? (tokenize line)) = .error fault ↔
      duplicateFault? (symbols.map Prod.fst) line = some fault := by
  rw [duplicateFault?]
  cases leadingLabel? (tokenize line) with
  | none => simp [declareLabel]
  | some label =>
    rw [declareLabel]
    dsimp only
    by_cases h : label ∈ symbols.map Prod.fst
    · rw [if_pos (Dictionary.contains_iff.mpr h), if_pos h]
      simp
    · rw [if_neg (mt Dictionary.contains_iff.mp h), if_neg h]
      simp

/-- A line that declares its label adds the name of it. -/
theorem map_fst_of_declareLabel {table : SymbolTable}
    (h : declareLabel symbols address (leadingLabel? (tokenize line)) = .ok table) :
    table.map Prod.fst = symbols.map Prod.fst ++ labelNames [line] := by
  rw [labelNames, List.filterMap_cons, List.filterMap_nil]
  cases hlabel : leadingLabel? (tokenize line) with
  | none =>
    rw [hlabel] at h
    cases h
    simp
  | some label =>
    rw [hlabel, declareLabel] at h
    split at h
    · cases h
    · cases h
      simp

theorem lineExpansion_eq_error :
    lineExpansion line = .error fault ↔ expansionFault? line = some fault := by
  rw [lineExpansion, expansionFault?]
  cases hrest : stripLabel (tokenize line) with
  | nil =>
    constructor
    · rintro ⟨⟩
    · rintro ⟨⟩
  | cons token rest =>
    show expand (token :: rest) = .error fault ↔ _
    cases expand (token :: rest) <;> simp

/-- A line is refused for its tokens, or else for its expansion. -/
theorem expandLine_eq_error :
    expandLine line = .error fault ↔
      (tokenCountFault? line).or (expansionFault? line) = some fault := by
  rw [tokenCountFault?]
  by_cases h : (tokenize line).length ≤ tokenLimit
  · rw [if_pos h, Option.none_or, ← lineExpansion_eq_error]
    have hline : expandLine line = lineExpansion line := by
      rw [expandLine, expandTokens, checkTokenCount, if_pos h]
      rfl
    rw [hline]
  · rw [if_neg h, Option.some_or, expandLine, expandTokens, checkTokenCount, if_neg h]
    simp [bind, Except.bind]

end

/-! ### The first pass -/

/-- What is wrong with the line at a position, if the labels `known` are defined before all
lines. -/
def faultAfter? (known : List String) (lines : List String) (n : Nat) : Option Fault :=
  lines[n]?.bind (lineFault? (known ++ labelNames (lines.take n)))

/-- What the first pass has to say about the line at a position. -/
def faultAt? (lines : List String) (n : Nat) : Option Fault :=
  faultAfter? [] lines n

section

variable {symbols : SymbolTable} {address : Int} {number : Nat} {line : String}
  {rest lines : List String} {fault : Fault}

@[simp] theorem faultAfter?_zero (known : List String) :
    faultAfter? known (line :: rest) 0 = lineFault? known line := by
  simp [faultAfter?, labelNames]

@[simp] theorem faultAfter?_succ (known : List String) (n : Nat) :
    faultAfter? known (line :: rest) (n + 1) = faultAfter? (known ++ labelNames [line]) rest n := by
  have hnames : labelNames (line :: rest.take n) = labelNames [line] ++ labelNames (rest.take n) :=
    List.filterMap_append (l := [line])
  rw [faultAfter?, faultAfter?, List.getElem?_cons_succ, List.take_succ_cons, hnames,
    List.append_assoc]

/-- **A line with a fault** ends the first pass. -/
theorem collectFrom_of_lineFault? (h : lineFault? (symbols.map Prod.fst) line = some fault) :
    (collectFrom symbols address number (line :: rest)).outcome
      = .error (.ofLine fault number line) := by
  rw [collectFrom]
  rcases Option.or_eq_some_iff.mp h with hlabel | ⟨hnone, hexpand⟩
  · rw [declareLabel_eq_error.mpr hlabel]
    rfl
  · cases hdeclare : declareLabel symbols address (leadingLabel? (tokenize line)) with
    | error other =>
      rw [declareLabel_eq_error.mp hdeclare] at hnone
      cases hnone
    | ok table =>
      rw [expandLine_eq_error.mpr hexpand]
      rfl

/-- **A line without a fault** is passed, and its label is known from there on. -/
theorem exists_collectFrom_eq (h : lineFault? (symbols.map Prod.fst) line = none) :
    ∃ (table : SymbolTable) (next : Int),
      table.map Prod.fst = symbols.map Prod.fst ++ labelNames [line] ∧
        (collectFrom symbols address number (line :: rest)).outcome
          = (collectFrom table next (number + 1) rest).outcome := by
  obtain ⟨hlabel, hexpand⟩ := Option.or_eq_none_iff.mp h
  rw [collectFrom]
  cases hdeclare : declareLabel symbols address (leadingLabel? (tokenize line)) with
  | error other =>
    rw [declareLabel_eq_error.mp hdeclare] at hlabel
    cases hlabel
  | ok table =>
    cases hline : expandLine line with
    | error other =>
      rw [expandLine_eq_error.mp hline] at hexpand
      cases hexpand
    | ok instructions => exact ⟨table, _, map_fst_of_declareLabel hdeclare, rfl⟩

/-- **The first pass reports the first fault**, if the lines before have none. -/
theorem collectFrom_of_faultAfter? {n : Nat} (hline : lines[n]? = some line)
    (hfault : faultAfter? (symbols.map Prod.fst) lines n = some fault)
    (hfirst : ∀ k < n, faultAfter? (symbols.map Prod.fst) lines k = none) :
    (collectFrom symbols address number lines).outcome
      = .error (.ofLine fault (n + number) line) := by
  induction lines generalizing symbols address number n with
  | nil => cases hline
  | cons first rest ih =>
    cases n with
    | zero =>
      cases hline
      rw [faultAfter?_zero] at hfault
      rw [collectFrom_of_lineFault? hfault, Nat.zero_add]
    | succ n =>
      have hnone := hfirst 0 (Nat.succ_pos n)
      rw [faultAfter?_zero] at hnone
      obtain ⟨table, next, htable, houtcome⟩ := exists_collectFrom_eq hnone
      rw [houtcome, Nat.add_right_comm n 1 number]
      refine ih hline ?_ fun k hk => ?_
      · rw [htable, ← faultAfter?_succ]
        exact hfault
      · rw [htable, ← faultAfter?_succ]
        exact hfirst (k + 1) (Nat.succ_lt_succ hk)

/-- Without a fault the first pass finds the labels. -/
theorem exists_collectFrom_eq_ok
    (h : ∀ n, faultAfter? (symbols.map Prod.fst) lines n = none) :
    ∃ table, (collectFrom symbols address number lines).outcome = .ok table := by
  induction lines generalizing symbols address number with
  | nil => exact ⟨symbols, rfl⟩
  | cons line rest ih =>
    have hnone := h 0
    rw [faultAfter?_zero] at hnone
    obtain ⟨table, next, htable, houtcome⟩ := exists_collectFrom_eq hnone
    rw [houtcome]
    refine ih fun n => ?_
    rw [htable, ← faultAfter?_succ]
    exact h (n + 1)

end

/-- The first line with a fault that the first pass looks for, and that fault. -/
structure IsFirstFault (lines : List String) (n : Nat) (line : String) (fault : Fault) : Prop where
  line : lines[n]? = some line
  fault : faultAt? lines n = some fault
  first : ∀ k < n, faultAt? lines k = none

section

variable {lines lines' : List String} {n : Nat} {line : String} {fault : Fault}

theorem exists_isFirstFault (h : ∃ n, faultAt? lines n ≠ none) :
    ∃ n line fault, IsFirstFault lines n line fault := by
  classical
  obtain ⟨fault, hfault⟩ := Option.ne_none_iff_exists'.mp (Nat.find_spec h)
  obtain ⟨line, hline, -⟩ := Option.bind_eq_some_iff.mp hfault
  exact ⟨_, line, fault, hline, hfault, fun k hk => not_not.mp (Nat.find_min h hk)⟩

/-- There is one first fault at most. -/
theorem IsFirstFault.unique (h : IsFirstFault lines n line fault) {n' : Nat} {line' : String}
    {fault' : Fault} (h' : IsFirstFault lines n' line' fault') :
    n = n' ∧ line = line' ∧ fault = fault' := by
  have hn : n = n' := by
    by_contra hne
    rcases lt_or_gt_of_ne hne with hlt | hlt
    · cases h.fault.symm.trans (h'.first n hlt)
    · cases h'.fault.symm.trans (h.first n' hlt)
  subst hn
  exact ⟨rfl, Option.some.inj (h.line.symm.trans h'.line),
    Option.some.inj (h.fault.symm.trans h'.fault)⟩

/-- The faults of the first lines do not depend on the lines after them. -/
theorem faultAt?_congr (h : lines'.take (n + 1) = lines.take (n + 1)) {k : Nat} (hk : k ≤ n) :
    faultAt? lines' k = faultAt? lines k := by
  have hline : lines'[k]? = lines[k]? := by
    have hlt : k < n + 1 := Nat.lt_succ_of_le hk
    rw [← List.getElem?_take_of_lt hlt, h, List.getElem?_take_of_lt hlt]
  have hbefore : lines'.take k = lines.take k := by
    have htake := congrArg (List.take k) h
    rwa [List.take_take, List.take_take, min_eq_left (by omega)] at htake
  rw [faultAt?, faultAt?, faultAfter?, faultAfter?, hline, hbefore]

theorem IsFirstFault.congr (hfirst : IsFirstFault lines n line fault)
    (h : lines'.take (n + 1) = lines.take (n + 1)) : IsFirstFault lines' n line fault := by
  refine ⟨?_, ?_, fun k hk => ?_⟩
  · have hlt : n < n + 1 := Nat.lt_succ_self n
    rw [← List.getElem?_take_of_lt hlt, h, List.getElem?_take_of_lt hlt]
    exact hfirst.line
  · rw [faultAt?_congr h (le_refl n)]
    exact hfirst.fault
  · rw [faultAt?_congr h hk.le]
    exact hfirst.first k hk

theorem IsFirstFault.collect_eq (h : IsFirstFault lines n line fault) :
    (collect lines).outcome = .error (.ofLine fault (n + 1) line) := by
  rw [collect, Collection.outcome_after]
  exact collectFrom_of_faultAfter? h.line h.fault h.first

end

/-! ### The second pass -/

/-- The first base instruction that cannot be encoded, and why. -/
def IsFirstRefused (t : InstructionTable) (symbols : SymbolTable) (ps : List Placement)
    (p : Placement) (failure : Failure Fault) : Prop :=
  ∃ front rest, ps = front ++ p :: rest ∧
    (∀ q ∈ front, ∃ word, assembleInstruction t symbols q.address q.tokens = .ok word) ∧
      assembleInstruction t symbols p.address p.tokens = .error failure

section

variable {t : InstructionTable} {symbols : SymbolTable} {ps qs : List Placement} {p : Placement}
  {cause : Failure Fault} {failure : Failure Report}

theorem IsFirstRefused.append_right (h : IsFirstRefused t symbols ps p cause) :
    IsFirstRefused t symbols (ps ++ qs) p cause := by
  obtain ⟨front, rest, rfl, hfront, hp⟩ := h
  exact ⟨front, rest ++ qs, by simp, hfront, hp⟩

theorem IsFirstRefused.append_left (h : IsFirstRefused t symbols qs p cause)
    (hps : ∀ q ∈ ps, ∃ word, assembleInstruction t symbols q.address q.tokens = .ok word) :
    IsFirstRefused t symbols (ps ++ qs) p cause := by
  obtain ⟨front, rest, rfl, hfront, hp⟩ := h
  refine ⟨ps ++ front, rest, by simp, fun q hq => ?_, hp⟩
  rcases List.mem_append.mp hq with hq | hq
  · exact hps q hq
  · exact hfront q hq

/-- The instructions of an emission all have words. -/
theorem exists_word_of_map_emit {entries : List Emitted}
    (h : ps.map (Placement.emit t symbols) = entries.map .ok) :
    ∀ q ∈ ps, ∃ word, assembleInstruction t symbols q.address q.tokens = .ok word := by
  intro q hq
  obtain ⟨e, he⟩ := exists_map_eq_ok.mp ⟨entries, h⟩ q hq
  obtain ⟨word, hword, -⟩ := map_eq_ok.mp he
  exact ⟨word, hword⟩

/-- **The second pass over one line** reports the first refusal. -/
theorem emitInstructions_isFirstRefused {line : String} {number : Nat} {address : Int}
    {instructions : List (List String)}
    (h : (emitInstructions t symbols line number address instructions).failure? = some failure) :
    ∃ p cause, IsFirstRefused t symbols (placeLine line number address instructions) p cause ∧
      failure = locateFailure p.number p.line cause := by
  induction instructions generalizing address with
  | nil => cases h
  | cons tokens rest ih =>
    rw [emitInstructions] at h
    rw [placeLine_cons]
    cases hword : assembleInstruction t symbols address tokens with
    | error cause =>
      rw [hword] at h
      cases h
      refine ⟨⟨address, tokens, line, number⟩, cause, ⟨[], _, rfl, ?_, hword⟩, rfl⟩
      exact fun q hq => absurd hq List.not_mem_nil
    | ok word =>
      rw [hword] at h
      obtain ⟨p, cause, hp, hfailure⟩ := ih h
      refine ⟨p, cause, ?_, hfailure⟩
      rw [← List.singleton_append]
      refine hp.append_left fun q hq => ?_
      rw [List.mem_singleton.mp hq]
      exact ⟨word, hword⟩

/-- **The second pass from any line on** reports the first refusal. -/
theorem emitFrom_isFirstRefused {lines : List String}
    (hexpands : ∀ line ∈ lines, ∃ instructions, expandLine line = .ok instructions)
    {count : Nat} {address : Int}
    (h : (emitFrom t symbols (count + 1) address lines).failure? = some failure) :
    ∃ p cause,
      IsFirstRefused t symbols ((placements lines).map (Placement.shift address count)) p cause ∧
        failure = locateFailure p.number p.line cause := by
  induction lines generalizing count address with
  | nil => cases h
  | cons line rest ih =>
    obtain ⟨⟨instructions, hline⟩, hrest⟩ := List.forall_mem_cons.mp hexpands
    rw [emitFrom, emitLine, hline] at h
    dsimp only at h
    rw [placements_cons, lineInstructions_of_eq_ok (expandLine_eq_ok.mp hline).2, List.map_append,
      shift_placeLine, List.map_map, Placement.shift_comp_shift, Int.add_zero]
    cases hfirst : (emitInstructions t symbols line (count + 1) address instructions).failure? with
    | some first =>
      rw [Emission.andThen_of_isSome (by rw [hfirst]; rfl), hfirst] at h
      cases h
      obtain ⟨p, cause, hp, hfailure⟩ := emitInstructions_isFirstRefused hfirst
      exact ⟨p, cause, hp.append_right, hfailure⟩
    | none =>
      -- the line is emitted, so that the rest starts where the layout has it
      obtain ⟨hmap, haddress⟩ := emitInstructions_yields.mp ⟨hfirst, rfl, rfl⟩
      rw [Emission.andThen_of_eq_none hfirst, Emission.failure?_after, haddress] at h
      obtain ⟨p, cause, hp, hfailure⟩ := ih hrest h
      exact ⟨p, cause, hp.append_left (exists_word_of_map_emit hmap), hfailure⟩

theorem emit_isFirstRefused {lines : List String} (hd : Declares lines)
    (h : (emit t symbols lines).failure? = some failure) :
    ∃ p cause, IsFirstRefused t symbols (placements lines) p cause ∧
      failure = locateFailure p.number p.line cause := by
  rw [emit, ← Nat.zero_add 1] at h
  have hrefused := emitFrom_isFirstRefused hd.expands h
  rwa [Placement.map_shift_zero] at hrefused

/-- An instruction of a program is refused for a fault. -/
theorem IsFirstRefused.exists_fault (ht : t.Accepted) {lines : List String}
    (h : IsFirstRefused t symbols (placements lines) p cause) : ∃ fault, cause = .fault fault := by
  obtain ⟨front, rest, hsplit, -, hp⟩ := h
  have hmem : p ∈ placements lines := by
    rw [hsplit]
    exact List.mem_append_right _ List.mem_cons_self
  exact ht.exists_fault (Placement.isInstruction hmem).ne_nil hp

end

/-! ### Programs -/

namespace Session

variable {s : Session} {text : String}

/-- **The fault of the first pass.** -/
theorem assemble_of_isFirstFault {n : Nat} {line : String} {fault : Fault}
    (h : IsFirstFault (lines text) n line fault) :
    (s.assemble text).result = .error (.fault (.ofLine fault (n + 1) line)) := by
  rw [assemble, h.collect_eq]

/-- **The fault of the second pass.** -/
theorem exists_isFirstRefused (hs : s.table.Accepted) (hd : Declares (lines text))
    {failure : Failure Report} (h : (s.assemble text).result = .error failure) :
    ∃ p fault,
      IsFirstRefused s.table (labelTable (lines text)) (placements (lines text)) p (.fault fault) ∧
        failure = .fault (.ofLine fault p.number p.line) := by
  rw [assemble, collect_eq_ok.mpr ⟨hd, rfl⟩] at h
  dsimp only at h
  cases hfailure : (emit s.table (labelTable (lines text)) (lines text)).failure? with
  | none =>
    rw [hfailure] at h
    cases h
  | some first =>
    rw [hfailure] at h
    cases h
    obtain ⟨p, cause, hp, hlocated⟩ := emit_isFirstRefused hd hfailure
    obtain ⟨fault, rfl⟩ := hp.exists_fault hs
    exact ⟨p, fault, hp, hlocated⟩

/-- **Which fault a program is refused for.** If lines are at fault, it is the fault of the first
such line, whatever follows that line. Otherwise it is the fault of the first base instruction that
cannot be encoded with the labels of the whole program. -/
theorem assemble_reports (hs : s.table.Accepted) (text : String) :
    ((∃ n, faultAt? (lines text) n ≠ none) → ∃ n line fault,
      IsFirstFault (lines text) n line fault ∧
        ∀ text', (lines text').take (n + 1) = (lines text).take (n + 1) →
          (s.assemble text').result = .error (.fault (.ofLine fault (n + 1) line))) ∧
    ((∀ n, faultAt? (lines text) n = none) →
      resolveLabels text = .ok (labelTable (lines text)) ∧
        ∀ failure, (s.assemble text).result = .error failure → ∃ p fault,
          IsFirstRefused s.table (labelTable (lines text)) (placements (lines text)) p
              (.fault fault) ∧
            failure = .fault (.ofLine fault p.number p.line)) := by
  constructor
  · intro h
    obtain ⟨n, line, fault, hfirst⟩ := exists_isFirstFault h
    exact ⟨n, line, fault, hfirst, fun text' htext => assemble_of_isFirstFault (hfirst.congr htext)⟩
  · intro h
    have hcollect : ∃ table, (collect (lines text)).outcome = .ok table :=
      exists_collectFrom_eq_ok h
    obtain ⟨table, htable⟩ := hcollect
    have hd := (collect_eq_ok.mp htable).1
    exact ⟨resolveLabels_eq_ok.mpr ⟨hd, rfl⟩, fun failure => exists_isFirstRefused hs hd⟩

/-- A program with an immediate that is out of range, and a label that is defined again on a line
that lacks an operand. -/
def twiceProgram : String :=
  "addi a0, a0, 4096\nx: nop\nx: li a0\nfoo"

/-- A program whose second line leads to a label that is not there. -/
def nowhereProgram : String :=
  "here: li a0, 4097\nbeqz a0, there\nfoo"

/-- The label is reported, also with other lines after it, and the branch before what is no
instruction. -/
theorem assemble_reports_twiceProgram :
    (start none false).table.Accepted ∧
      IsFirstFault (lines twiceProgram) 2 "x: li a0" (.duplicateLabel "x") ∧
      ((start none false).assemble (twiceProgram ++ " a0\nli")).result
        = .error (.fault (.ofLine (.duplicateLabel "x") 3 "x: li a0")) ∧
      (∀ n, faultAt? (lines nowhereProgram) n = none) ∧
      ∃ p fault,
        IsFirstRefused .rv32i [("here", 0)] (placements (lines nowhereProgram)) p (.fault fault) ∧
          ((start none false).assemble nowhereProgram).result
            = .error (.fault (.ofLine fault p.number p.line)) := by
  have hs : (start none false).table.Accepted := .builtIn
  have hfirst : IsFirstFault (lines twiceProgram) 2 "x: li a0" (.duplicateLabel "x") :=
    ⟨by decide +kernel, by decide +kernel, by decide +kernel⟩
  have hnone : ∀ n, faultAt? (lines nowhereProgram) n = none := by
    have hlines : lines nowhereProgram = ["here: li a0, 4097", "beqz a0, there", "foo"] := by
      decide +kernel
    intro n
    by_cases h : n < 3
    · revert n
      decide +kernel
    · rw [hlines, faultAt?, faultAfter?, List.getElem?_eq_none (Nat.le_of_not_lt h)]
      rfl
  obtain ⟨n, line, fault, h, hresult⟩ := (assemble_reports hs twiceProgram).1 ⟨2, by decide +kernel⟩
  obtain ⟨rfl, rfl, rfl⟩ := hfirst.unique h
  obtain ⟨-, hrefused⟩ := (assemble_reports hs nowhereProgram).2 hnone
  cases hnowhere : ((start none false).assemble nowhereProgram).result with
  | ok words =>
    have hfails : ((start none false).assemble nowhereProgram).result.toOption = none := by
      decide +kernel
    rw [hnowhere] at hfails
    cases hfails
  | error failure =>
    obtain ⟨p, fault, hp, rfl⟩ := hrefused failure hnowhere
    have hlabels : labelTable (lines nowhereProgram) = [("here", 0)] := by decide +kernel
    rw [hlabels] at hp
    exact ⟨hs, hfirst, hresult _ (by decide +kernel), hnone, p, fault, hp, rfl⟩

end Session

end RiscvAssembler
