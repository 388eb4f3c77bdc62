import RiscvAssembler.Proofs.Program.Failure

/-!
# Programs with the same tokens

Of a line only the tokens matter, and of the lines only those that have tokens. So two texts with
the same tokens are the same program, however these are spread and whatever comments are between
them: they are assembled to the same words, or refused for the same fault. The fault is reported
with the line of each text; the two lines are at the same place among those with tokens.

## Main definitions

* `tokenRows`: the tokens of the lines that have any.
* `tokenLines`: these lines, with their numbers.
* `Reformats`: lines with the same tokens, one line after the other.
* `Alike`: answers that are the same but for the lines to blame.

## Main results

* `reformats_of_tokenRows_eq`: the same rows of tokens come from lines that go together.
* `Reformats.collectFrom`, `Reformats.emitFrom`: each pass answers alike.
* `Session.assemble_reformatted`: texts with the same tokens are assembled alike.
-/

namespace RiscvAssembler

open Text

/-! ### Lines with tokens -/

/-- The tokens of the lines, those without tokens left out. -/
def tokenRows (ls : List String) : List (List String) :=
  (ls.map tokenize).filter fun tokens => !tokens.isEmpty

/-- The lines that have tokens with their numbers, if the first line has the number `number`. -/
def tokenLines (number : Nat) (ls : List String) : List (String × Nat) :=
  (ls.zipIdx number).filter fun p => !(tokenize p.1).isEmpty

/-- Two lines, each with its number. -/
abbrev LinePair := (String × Nat) × String × Nat

/-- The lines that have tokens of two programs, in pairs. -/
def linePairs (number number' : Nat) (ls ls' : List String) : List LinePair :=
  (tokenLines number ls).zip (tokenLines number' ls')

section

variable {line : String} {rest : List String}

theorem tokenRows_of_blank (h : tokenize line = []) :
    tokenRows (line :: rest) = tokenRows rest := by
  rw [tokenRows, List.map_cons, h]
  rfl

theorem tokenRows_cons (h : tokenize line ≠ []) :
    tokenRows (line :: rest) = tokenize line :: tokenRows rest :=
  List.filter_cons_of_pos (by simpa using h)

theorem tokenLines_of_blank (h : tokenize line = []) (number : Nat) :
    tokenLines number (line :: rest) = tokenLines (number + 1) rest :=
  List.filter_cons_of_neg (by simpa using h)

theorem tokenLines_cons (h : tokenize line ≠ []) (number : Nat) :
    tokenLines number (line :: rest) = (line, number) :: tokenLines (number + 1) rest :=
  List.filter_cons_of_pos (by simpa using h)

end

/-- Lines with the same tokens in the same order. Lines without tokens stand anywhere. -/
inductive Reformats : List String → List String → Prop
  | nil : Reformats [] []
  | left {line : String} {ls ls' : List String} (h : tokenize line = [])
      (hrest : Reformats ls ls') : Reformats (line :: ls) ls'
  | right {line' : String} {ls ls' : List String} (h : tokenize line' = [])
      (hrest : Reformats ls ls') : Reformats ls (line' :: ls')
  | both {line line' : String} {ls ls' : List String} (hne : tokenize line ≠ [])
      (h : tokenize line' = tokenize line) (hrest : Reformats ls ls') :
      Reformats (line :: ls) (line' :: ls')

/-- Lines without tokens only. -/
theorem reformats_nil {ls' : List String} (h : tokenRows ls' = []) : Reformats [] ls' := by
  induction ls' with
  | nil => exact .nil
  | cons line' rest' ih =>
    by_cases hblank : tokenize line' = []
    · rw [tokenRows_of_blank hblank] at h
      exact .right hblank (ih h)
    · rw [tokenRows_cons hblank] at h
      cases h

/-- **The same rows of tokens** come from lines that go together. -/
theorem reformats_of_tokenRows_eq {ls ls' : List String} (h : tokenRows ls' = tokenRows ls) :
    Reformats ls ls' := by
  induction ls generalizing ls' with
  | nil => exact reformats_nil h
  | cons line rest ih =>
    by_cases hline : tokenize line = []
    · rw [tokenRows_of_blank hline] at h
      exact .left hline (ih h)
    · rw [tokenRows_cons hline] at h
      -- the line goes with the first one that has tokens
      induction ls' with
      | nil => cases h
      | cons line' rest' ih' =>
        by_cases hline' : tokenize line' = []
        · rw [tokenRows_of_blank hline'] at h
          exact .right hline' (ih' h)
        · rw [tokenRows_cons hline'] at h
          obtain ⟨htokens, hrest⟩ := List.cons_eq_cons.mp h
          exact .both hline htokens (ih hrest)

/-! ### Answers that are alike -/

/-- The answers are the same, or both are reports of the same fault, each about its own line of a
pair. -/
inductive Alike {α : Type} (pairs : List LinePair) :
    Except (Failure Report) α → Except (Failure Report) α → Prop
  | ok (a : α) : Alike pairs (.ok a) (.ok a)
  | error {p : LinePair} (fault : Fault) (hp : p ∈ pairs) :
      Alike pairs (.error (.fault (.ofLine fault p.1.2 p.1.1)))
        (.error (.fault (.ofLine fault p.2.2 p.2.1)))

/-- An answer about a line, with the line to blame. -/
def located {α : Type} (number : Nat) (line : String) (x : Except Fault α) :
    Except (Failure Report) α :=
  x.mapError fun fault => .fault (.ofLine fault number line)

namespace Alike

variable {α β : Type} {pairs more : List LinePair}

theorem mono {x y : Except (Failure Report) α} (h : Alike pairs x y) (hmore : pairs ⊆ more) :
    Alike more x y := by
  cases h with
  | ok a => exact .ok a
  | error fault hp => exact .error fault (hmore hp)

theorem bind {x y : Except (Failure Report) α} {f g : α → Except (Failure Report) β}
    (h : Alike pairs x y) (hnext : ∀ a, Alike pairs (f a) (g a)) :
    Alike pairs (x >>= f) (y >>= g) := by
  cases h with
  | ok a => exact hnext a
  | error fault hp => exact .error fault hp

theorem map {x y : Except (Failure Report) α} (h : Alike pairs x y) (f : α → β) :
    Alike pairs (x.map f) (y.map f) := by
  cases h with
  | ok a => exact .ok (f a)
  | error fault hp => exact .error fault hp

theorem located {number number' : Nat} {line line' : String}
    (hp : ((line, number), line', number') ∈ pairs) (x : Except Fault α) :
    Alike pairs (located number line x) (located number' line' x) := by
  cases x with
  | ok a => exact .ok a
  | error fault => exact .error fault hp

end Alike

section

variable {line line' : String} {ls ls' : List String}

theorem linePairs_left (h : tokenize line = []) (number number' : Nat) :
    linePairs number number' (line :: ls) ls' = linePairs (number + 1) number' ls ls' := by
  rw [linePairs, linePairs, tokenLines_of_blank h]

theorem linePairs_right (h : tokenize line' = []) (number number' : Nat) :
    linePairs number number' ls (line' :: ls') = linePairs number (number' + 1) ls ls' := by
  rw [linePairs, linePairs, tokenLines_of_blank h]

theorem linePairs_cons (h : tokenize line ≠ []) (h' : tokenize line' ≠ []) (number number' : Nat) :
    linePairs number number' (line :: ls) (line' :: ls')
      = ((line, number), line', number') :: linePairs (number + 1) (number' + 1) ls ls' := by
  rw [linePairs, linePairs, tokenLines_cons h, tokenLines_cons h', List.zip_cons_cons]

theorem expandLine_of_blank (h : tokenize line = []) : expandLine line = .ok [] := by
  rw [expandLine, h]
  rfl

theorem expandLine_congr (h : tokenize line' = tokenize line) :
    expandLine line' = expandLine line := by
  rw [expandLine, expandLine, h]

end

/-! ### The first pass -/

/-- The symbols found, or the report of a fault. -/
def Collection.answer (c : Collection) : Except (Failure Report) SymbolTable :=
  c.outcome.mapError .fault

theorem collectFrom_of_blank {line : String} (h : tokenize line = []) (symbols : SymbolTable)
    (address : Int) (number : Nat) (ls : List String) :
    (collectFrom symbols address number (line :: ls)).answer
      = (collectFrom symbols address (number + 1) ls).answer := by
  rw [collectFrom, expandLine_of_blank h, h]
  simp [leadingLabel?, declareLabel, Collection.answer]

/-- The first pass over a line and over what follows it. -/
theorem answer_collectFrom_cons (symbols : SymbolTable) (address : Int) (number : Nat)
    (line : String) (ls : List String) :
    (collectFrom symbols address number (line :: ls)).answer =
      located number line (declareLabel symbols address (leadingLabel? (tokenize line))) >>=
        fun known => located number line (expandLine line) >>= fun instructions =>
          (collectFrom known (address + 4 * instructions.length) (number + 1) ls).answer := by
  rw [collectFrom]
  cases declareLabel symbols address (leadingLabel? (tokenize line)) with
  | error fault => rfl
  | ok known =>
    cases expandLine line with
    | error fault => rfl
    | ok instructions => rfl

/-- **The first pass answers alike.** -/
theorem Reformats.collectFrom {ls ls' : List String} (h : Reformats ls ls')
    (symbols : SymbolTable) (address : Int) (number number' : Nat) :
    Alike (linePairs number number' ls ls') (collectFrom symbols address number ls).answer
      (collectFrom symbols address number' ls').answer := by
  induction h generalizing symbols address number number' with
  | nil => exact .ok symbols
  | left hline _ ih =>
    rw [linePairs_left hline, collectFrom_of_blank hline]
    exact ih symbols address (number + 1) number'
  | right hline _ ih =>
    rw [linePairs_right hline, collectFrom_of_blank hline]
    exact ih symbols address number (number' + 1)
  | both hne htokens _ ih =>
    rw [linePairs_cons hne (htokens ▸ hne), answer_collectFrom_cons, answer_collectFrom_cons,
      htokens, expandLine_congr htokens]
    refine (Alike.located List.mem_cons_self _).bind fun known => ?_
    refine (Alike.located List.mem_cons_self _).bind fun instructions => ?_
    exact (ih known _ (number + 1) (number' + 1)).mono (List.subset_cons_self _ _)

/-! ### The second pass -/

/-- The words emitted and the address reached, or why it went no further. -/
def Emission.answer (e : Emission) : Except (Failure Report) (List Int × Int) :=
  match e.failure? with
  | some failure => .error failure
  | none => .ok (e.entries.map (·.word), e.address)

namespace Emission

theorem answer_of_eq_some {e : Emission} {failure : Failure Report}
    (h : e.failure? = some failure) : e.answer = .error failure := by
  rw [answer, h]

theorem answer_of_eq_none {e : Emission} (h : e.failure? = none) :
    e.answer = .ok (e.entries.map (·.word), e.address) := by
  rw [answer, h]

theorem answer_after (entries : List Emitted) (e : Emission) :
    (e.after entries).answer = e.answer.map fun p => (entries.map (·.word) ++ p.1, p.2) := by
  cases h : e.failure? with
  | some failure =>
    rw [answer_of_eq_some h, answer_of_eq_some (e := e.after entries) h]
    rfl
  | none =>
    rw [answer_of_eq_none h, answer_of_eq_none (e := e.after entries) h, entries_after,
      List.map_append]
    rfl

/-- One emission after another answers with the words of both. -/
theorem answer_andThen (e : Emission) (next : Int → Emission) :
    (e.andThen next).answer
      = e.answer >>= fun p => (next p.2).answer.map fun q => (p.1 ++ q.1, q.2) := by
  cases h : e.failure? with
  | some failure =>
    rw [andThen_of_isSome (by rw [h]; rfl), answer_of_eq_some h]
    rfl
  | none =>
    rw [andThen_of_eq_none h, answer_after, answer_of_eq_none h]
    rfl

end Emission

section

variable {t : InstructionTable} {symbols : SymbolTable} {pairs : List LinePair}
  {line line' : String} {number number' : Nat}

/-- The instructions of two lines with the same tokens are encoded alike. -/
theorem emitInstructions_alike (ht : t.Accepted) (hp : ((line, number), line', number') ∈ pairs)
    {instructions : List (List String)} (hne : ∀ tokens ∈ instructions, tokens ≠ [])
    (address : Int) :
    Alike pairs (emitInstructions t symbols line number address instructions).answer
      (emitInstructions t symbols line' number' address instructions).answer := by
  induction instructions generalizing address with
  | nil => exact .ok ([], address)
  | cons tokens rest ih =>
    obtain ⟨htokens, hrest⟩ := List.forall_mem_cons.mp hne
    rw [emitInstructions, emitInstructions]
    cases hword : assembleInstruction t symbols address tokens with
    | error failure =>
      obtain ⟨fault, rfl⟩ := ht.exists_fault htokens hword
      exact .error fault hp
    | ok word =>
      dsimp only
      rw [Emission.answer_after, Emission.answer_after]
      exact (ih hrest (address + 4)).map _

theorem emitLine_alike (ht : t.Accepted) (hp : ((line, number), line', number') ∈ pairs)
    (htokens : tokenize line' = tokenize line) (address : Int) :
    Alike pairs (emitLine t symbols line number address).answer
      (emitLine t symbols line' number' address).answer := by
  rw [emitLine, emitLine, expandLine_congr htokens]
  cases hline : expandLine line with
  | error fault => exact .error fault hp
  | ok instructions => exact emitInstructions_alike ht hp (ne_nil_of_mem_expandLine hline) address

theorem emitFrom_of_blank (h : tokenize line = []) (address : Int) (ls : List String) :
    emitFrom t symbols number address (line :: ls)
      = emitFrom t symbols (number + 1) address ls := by
  rw [emitFrom, emitLine, expandLine_of_blank h]
  exact Emission.andThen_of_eq_none rfl _

end

/-- **The second pass answers alike.** -/
theorem Reformats.emitFrom {t : InstructionTable} (ht : t.Accepted) {ls ls' : List String}
    (h : Reformats ls ls') (symbols : SymbolTable) (address : Int) (number number' : Nat) :
    Alike (linePairs number number' ls ls') (emitFrom t symbols number address ls).answer
      (emitFrom t symbols number' address ls').answer := by
  induction h generalizing address number number' with
  | nil => exact .ok ([], address)
  | left hline _ ih =>
    rw [linePairs_left hline, emitFrom_of_blank hline]
    exact ih address (number + 1) number'
  | right hline _ ih =>
    rw [linePairs_right hline, emitFrom_of_blank hline]
    exact ih address number (number' + 1)
  | both hne htokens _ ih =>
    rw [linePairs_cons hne (htokens ▸ hne), RiscvAssembler.emitFrom, RiscvAssembler.emitFrom,
      Emission.answer_andThen, Emission.answer_andThen]
    refine (emitLine_alike ht List.mem_cons_self htokens address).bind fun p => ?_
    exact ((ih p.2 (number + 1) (number' + 1)).mono (List.subset_cons_self _ _)).map _

/-! ### Programs -/

namespace Session

/-- The words and the symbols of a program, or why there are none. -/
theorem result_assemble (s : Session) (text : String) :
    ((s.assemble text).result.map fun words => (words, (s.assemble text).session.symbols))
      = (collect (lines text)).answer >>= fun symbols =>
        (emit s.table symbols (lines text)).answer.map fun p => (p.1, symbols) := by
  rw [assemble, Collection.answer]
  cases (collect (lines text)).outcome with
  | error report => rfl
  | ok symbols =>
    change _ = (emit s.table symbols (lines text)).answer.map fun p => (p.1, symbols)
    dsimp only
    rw [afterEmission]
    cases h : (emit s.table symbols (lines text)).failure? with
    | some failure =>
      rw [Emission.answer_of_eq_some h]
      rfl
    | none =>
      rw [Emission.answer_of_eq_none h]
      rfl

/-- The programs are assembled to the same words and symbols, or are refused for the same fault,
each in its own line of those with tokens. -/
inductive AssembledAlike (s : Session) (text text' : String) : Prop
  | ok {words : List Int} (h : (s.assemble text).result = .ok words)
      (h' : (s.assemble text').result = .ok words)
      (hsymbols : (s.assemble text').session.symbols = (s.assemble text).session.symbols)
  | refused {report report' : Report} {i n n' : Nat} {line line' : String}
      (h : (s.assemble text).result = .error (.fault report))
      (h' : (s.assemble text').result = .error (.fault report'))
      (hline : (tokenLines 1 (lines text))[i]? = some (line, n))
      (hline' : (tokenLines 1 (lines text'))[i]? = some (line', n'))
      (hfamily : report'.family = report.family) (hmessage : report'.message = report.message)
      (hblame : report.lineNumber = some (n : Int) ∧ report.lineText = some line)
      (hblame' : report'.lineNumber = some (n' : Int) ∧ report'.lineText = some line')

/-- **Texts with the same tokens are assembled alike.** -/
theorem assemble_reformatted {s : Session} (hs : s.table.Accepted) {text text' : String}
    (h : tokenRows (lines text') = tokenRows (lines text)) : s.AssembledAlike text text' := by
  have hlines := reformats_of_tokenRows_eq h
  have halike : Alike (linePairs 1 1 (lines text) (lines text'))
      ((s.assemble text).result.map fun words => (words, (s.assemble text).session.symbols))
      ((s.assemble text').result.map fun words => (words, (s.assemble text').session.symbols)) := by
    rw [result_assemble, result_assemble]
    refine (hlines.collectFrom [] 0 1 1).bind fun symbols => ?_
    exact (hlines.emitFrom hs symbols 0 1 1).map _
  generalize hx : (s.assemble text).result.map _ = x at halike
  generalize hy : (s.assemble text').result.map _ = y at halike
  cases halike with
  | ok a =>
    obtain ⟨words, hwords, rfl⟩ := map_eq_ok.mp hx
    obtain ⟨words', hwords', hsame⟩ := map_eq_ok.mp hy
    obtain ⟨rfl, hsymbols⟩ := Prod.mk.inj hsame
    exact .ok hwords hwords' hsymbols
  | error fault hp =>
    obtain ⟨i, hi⟩ := List.mem_iff_getElem?.mp hp
    obtain ⟨hline, hline'⟩ := List.getElem?_zip_eq_some.mp hi
    exact .refused (map_eq_error.mp hx) (map_eq_error.mp hy) hline hline' rfl rfl ⟨rfl, rfl⟩
      ⟨rfl, rfl⟩

/-- A program with a comment, a line without tokens, and a load that is refused. -/
def spreadProgram : String :=
  "# load\nadd a0, a1, a2\n\nlw a0, 4096(sp) # too far\n"

/-- The same tokens on fewer lines, which end in carriage returns as well. -/
def denseProgram : String :=
  "add a0 a1 a2\r\n(lw) a0,4096 sp"

/-- The load is the second line with tokens of either program. -/
theorem assemble_reformatted_denseProgram :
    (start none false).table.Accepted ∧
      tokenRows (lines denseProgram) = tokenRows (lines spreadProgram) ∧
      (start none false).AssembledAlike spreadProgram denseProgram ∧
      (tokenLines 1 (lines spreadProgram))[1]? = some ("lw a0, 4096(sp) # too far", 4) ∧
      (tokenLines 1 (lines denseProgram))[1]? = some ("(lw) a0,4096 sp", 2) ∧
      ((start none false).assemble spreadProgram).result
        = .error (.fault (.ofLine (.outOfRange "I-type immediate" 4096 (-2048) 2047 12) 4
            "lw a0, 4096(sp) # too far")) ∧
      ((start none false).assemble denseProgram).result
        = .error (.fault (.ofLine (.outOfRange "I-type immediate" 4096 (-2048) 2047 12) 2
            "(lw) a0,4096 sp")) := by
  have htokens : tokenRows (lines denseProgram) = tokenRows (lines spreadProgram) := by
    decide +kernel
  exact ⟨.builtIn, htokens, assemble_reformatted .builtIn htokens, by decide +kernel,
    by decide +kernel, by decide +kernel, by decide +kernel⟩

end Session

end RiscvAssembler
