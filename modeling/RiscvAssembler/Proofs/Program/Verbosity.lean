import RiscvAssembler.Proofs.Program.Desugaring
import RiscvAssembler.Proofs.Program.History
import RiscvAssembler.Proofs.Text.Hexadecimal

/-!
# The log

A session tells of its work if it is verbose, which can be changed at any time. The log is never
read: two sessions that are asked the same give the same answers and keep the same state, whenever
the log of either is turned on and off. Without the log nothing is printed. With it, the lines
printed for the second pass are those of the words, in order.

## Main definitions

* `Session.observations`: what is seen of the calls apart from what they print.
* `Session.SameButLog`: sessions that differ in the log only.
* `Session.ListsWords`: lines that show the words of a session.

## Main results

* `Session.SameButLog.observe_eq`, `Session.SameButLog.perform`: a call keeps sessions so.
* `Session.SameButLog.observations_eq`: and calls do, one after the other.
* `Session.Holds.listsWords`: the lines for the words of a program.
* `Session.log_changes_nothing`: what the log shows, and that it only shows.
-/

namespace RiscvAssembler

open Text

namespace Session

/-! ### What is seen of a call -/

/-- The answer of a call. -/
inductive Answer
  | words (result : Except (Failure Report) (List Int))
  | symbols (result : Except (Failure Report) SymbolTable)
  | text (shown : String)
  | done (result : Except (Failure Report) Unit)
  deriving DecidableEq

/-- What a session answers to a call. -/
def answer (s : Session) : Call → Answer
  | .assemble text => .words (s.assemble text).result
  | .collectLabels lines => .symbols (s.collectLabels lines).result
  | .hexImage => .text s.hexImage
  | .listing => .text s.listing
  | .log message => .done (s.log message).result
  | .setVerbose _ => .done (.ok ())

/-- What a session prints in a call. -/
def printed (s : Session) : Call → List String
  | .assemble text => (s.assemble text).printed
  | .collectLabels lines => (s.collectLabels lines).printed
  | .log message => (s.log message).printed
  | .hexImage | .listing | .setVerbose _ => []

/-- What is seen of a call: its answer, and what the session shows after it. -/
structure Observation where
  call : Call
  answer : Answer
  words : List Int
  symbols : SymbolTable
  sourceMap : List (Int × String × Nat)
  address : Int
  deriving DecidableEq

/-- What is seen of a call, apart from what it prints. -/
def observe (s : Session) (call : Call) : Observation where
  call := call
  answer := s.answer call
  words := (s.perform call).words
  symbols := (s.perform call).symbols
  sourceMap := (s.perform call).sourceMap
  address := (s.perform call).address

/-- The call turns the log on or off. -/
def Call.isSwitch : Call → Bool
  | .setVerbose _ => true
  | .assemble _ | .collectLabels _ | .hexImage | .listing | .log _ => false

/-- The calls that do not turn the log on or off. -/
def requests (calls : List Call) : List Call :=
  calls.filter fun call => !call.isSwitch

/-- What is seen of calls, one after the other. -/
def observations (s : Session) : List Call → List Observation
  | [] => []
  | call :: rest =>
    if call.isSwitch then observations (s.perform call) rest
    else s.observe call :: observations (s.perform call) rest

/-- Whether there is a log after a call. -/
def Call.flag (verbose : Bool) : Call → Bool
  | .setVerbose verbose => verbose
  | .assemble _ | .collectLabels _ | .hexImage | .listing | .log _ => verbose

/-- Whether there is a log after calls: what was said last counts. -/
def flagAfter (verbose : Bool) (calls : List Call) : Bool :=
  calls.foldl Call.flag verbose

/-! ### Sessions with and without a log -/

/-- The sessions differ in the log only. -/
def SameButLog (s s' : Session) : Prop :=
  ∃ verbose, s' = s.setVerbose verbose

/-- **A program is assembled alike** with and without a log. -/
theorem assemble_setVerbose (s : Session) (verbose : Bool) (text : String) :
    ((s.setVerbose verbose).assemble text).result = (s.assemble text).result ∧
      ((s.setVerbose verbose).assemble text).session
        = (s.assemble text).session.setVerbose verbose := by
  have htable : (s.setVerbose verbose).table = s.table := rfl
  exact assemble_congr htable text

namespace SameButLog

variable {s s' : Session}

/-- **The same is seen of a call.** -/
theorem observe_eq (h : s.SameButLog s') (call : Call) : s'.observe call = s.observe call := by
  obtain ⟨verbose, rfl⟩ := h
  cases call with
  | assemble text =>
    obtain ⟨hresult, hsession⟩ := assemble_setVerbose s verbose text
    rw [observe, observe, answer, answer, Session.perform, Session.perform, hresult, hsession]
    rfl
  | collectLabels | hexImage | listing | log | setVerbose => rfl

/-- **A call keeps it so.** -/
theorem perform (h : s.SameButLog s') (call : Call) :
    (s.perform call).SameButLog (s'.perform call) := by
  obtain ⟨verbose, rfl⟩ := h
  cases call with
  | assemble text => exact ⟨verbose, (assemble_setVerbose s verbose text).2⟩
  | collectLabels | hexImage | listing | log => exact ⟨verbose, rfl⟩
  | setVerbose verbose' => exact ⟨verbose', rfl⟩

/-- One of the sessions may turn its log on or off. -/
theorem switch (h : s.SameButLog s') {call : Call} (hcall : call.isSwitch = true) :
    s.SameButLog (s'.perform call) := by
  obtain ⟨verbose, rfl⟩ := h
  cases call with
  | assemble | collectLabels | hexImage | listing | log => cases hcall
  | setVerbose verbose' => exact ⟨verbose', rfl⟩

/-- **The same is seen of calls**, whatever is done to the log between them. -/
theorem observations_eq (h : s.SameButLog s') (calls : List Call) :
    s'.observations calls = s.observations (requests calls) := by
  induction calls generalizing s s' with
  | nil => rfl
  | cons call rest ih =>
    rw [observations, requests, List.filter_cons]
    cases hcall : call.isSwitch with
    | true => exact ih (h.switch hcall)
    | false =>
      rw [Bool.not_false, if_pos rfl, if_neg Bool.false_ne_true, observations, hcall,
        if_neg Bool.false_ne_true, h.observe_eq]
      exact congrArg (s.observe call :: ·) (ih (h.perform call))

end SameButLog

theorem verbose_assemble (s : Session) (text : String) :
    (s.assemble text).session.verbose = s.verbose := by
  have hsession : (s.assemble text).session = (s.assemble text).session.setVerbose s.verbose :=
    (assemble_setVerbose s s.verbose text).2
  rw [hsession]
  rfl

theorem verbose_perform (s : Session) (call : Call) :
    (s.perform call).verbose = call.flag s.verbose := by
  cases call with
  | assemble text => exact s.verbose_assemble text
  | collectLabels | hexImage | listing | log | setVerbose => rfl

theorem verbose_run (s : Session) (calls : List Call) :
    (s.run calls).verbose = flagAfter s.verbose calls := by
  induction calls generalizing s with
  | nil => rfl
  | cons call rest ih =>
    rw [flagAfter, List.foldl_cons, ← verbose_perform]
    exact ih (s.perform call)

/-- **Without a log nothing is printed.** -/
theorem printed_of_quiet {s : Session} (hs : s.verbose = false) (call : Call) :
    s.printed call = [] := by
  have hlogged : ∀ events, s.logged events = [] := fun events => by rw [logged, hs]; rfl
  cases call with
  | assemble text =>
    rw [printed, assemble]
    cases (collect (lines text)).outcome with
    | error report => exact hlogged _
    | ok symbols => exact hlogged _
  | collectLabels lines => exact hlogged _
  | log message =>
    rw [printed, log, hs]
    rfl
  | hexImage | listing | setVerbose => rfl

/-! ### The lines of the second pass -/

/-- The lines show the words of the session: one line for each word, with its address. -/
structure ListsWords (s : Session) (rows : List String) : Prop where
  length_words : rows.length = s.words.length
  length_sourceMap : rows.length = s.sourceMap.length
  row : ∀ (i : Nat) address line number word, s.sourceMap[i]? = some (address, line, number) →
    s.words[i]? = some word → ∃ shown,
      rows[i]? = some ("  0x" ++ hexUpper 4 address ++ ": " ++ hexUpper 8 word ++ "  " ++ shown)
  newline_notMem : ∀ row ∈ rows, '\n' ∉ row.toList

/-- What the log shows of an instruction stands on one line. -/
theorem newline_notMem_instructionText {tokens : List String}
    (h : ∀ token ∈ tokens, IsToken token) : '\n' ∉ (instructionText tokens).toList := by
  have hhead : '\n' ∉ (tokens.headD "").toList := by
    cases tokens with
    | nil => exact List.not_mem_nil
    | cons token rest => exact (h token List.mem_cons_self).newline_notMem
  have hsep : ∀ c ∈ [',', ' '], c ≠ '\n' := by simp
  have htail : ∀ token ∈ tokens.tail, ∀ c ∈ token.toList, c ≠ '\n' := by
    rintro token htoken c hc rfl
    exact (h token (List.mem_of_mem_tail htoken)).newline_notMem hc
  have hrest := forall_mem_intercalate hsep (List.forall_mem_map.mpr htail)
  rw [instructionText, toList_mnemonic_append]
  intro hmem
  rcases List.mem_append.mp hmem with hmem | hmem
  · exact hhead hmem
  · rcases List.mem_cons.mp hmem with hspace | hmem
    · cases hspace
    · exact hrest _ hmem rfl

theorem text_word (address word : Int) (tokens : List String) :
    (Event.word address word tokens).text
      = "  0x" ++ hexUpper 4 address ++ ": " ++ hexUpper 8 word ++ "  " ++
        instructionText tokens := rfl

theorem newline_notMem_word (address word : Int) {tokens : List String}
    (h : ∀ token ∈ tokens, IsToken token) :
    '\n' ∉ (Event.word address word tokens).text.toList := by
  have haddress := newline_notMem_hexUpper 4 address
  have hword := newline_notMem_hexUpper 8 word
  have htext := newline_notMem_instructionText h
  simp only [text_word, String.toList_append, List.mem_append, not_or]
  exact ⟨⟨⟨⟨⟨by decide, haddress⟩, by decide⟩, hword⟩, by decide⟩, htext⟩

/-- **The lines for the words of a program.** -/
theorem Holds.listsWords {s : Session} {lines : List String} (h : s.Holds lines) :
    s.ListsWords (s.entries.map fun e => e.event.text) := by
  refine ⟨by simp [words], by simp [sourceMap], fun i address line number word hplace hword => ?_,
    fun row hrow => ?_⟩
  · rw [sourceMap, List.getElem?_map] at hplace
    obtain ⟨e, he, hplace⟩ := Option.map_eq_some_iff.mp hplace
    rw [words, List.getElem?_map, he] at hword
    cases hplace
    cases hword
    refine ⟨instructionText e.tokens, ?_⟩
    rw [List.getElem?_map, he]
    rfl
  · obtain ⟨e, he, rfl⟩ := List.mem_map.mp hrow
    obtain ⟨_, _, -, htokens, -, -⟩ := mem_placements.mp (h.assembled he).1
    have hmem : e.tokens ∈ lineInstructions e.line := List.mem_of_getElem? htokens
    exact newline_notMem_word _ _ (isToken_of_mem_lineInstructions hmem).1

theorem head?_toList_append {s : String} {c : Char} (h : s.toList.head? = some c) (t : String) :
    (s ++ t).toList.head? = some c := by
  rw [String.toList_append, List.head?_append, h]
  rfl

/-- What the log shows of labels and counts is indented. -/
theorem head?_of_mem_collectFrom (symbols : SymbolTable) (address : Int) (number : Nat)
    (lines : List String) :
    ∀ event ∈ (collectFrom symbols address number lines).events,
      event.text.toList.head? = some ' ' := by
  have hnone : ∀ event ∈ ([] : List Event), event.text.toList.head? = some ' ' :=
    fun _ h => absurd h List.not_mem_nil
  induction lines generalizing symbols address number with
  | nil =>
    have hcount : (Event.symbolCount symbols.length).text.toList.head? = some ' ' :=
      head?_toList_append (by decide) _
    have hsize : (Event.programSize address).text.toList.head? = some ' ' :=
      head?_toList_append (head?_toList_append (by decide) _) _
    exact List.forall_mem_cons.mpr ⟨hcount, List.forall_mem_singleton.mpr hsize⟩
  | cons line rest ih =>
    rw [collectFrom]
    cases declareLabel symbols address (leadingLabel? (tokenize line)) with
    | error fault => exact hnone
    | ok known =>
      refine List.forall_mem_append.mpr ⟨List.forall_mem_map.mpr fun label _ => ?_, ?_⟩
      · exact head?_toList_append (head?_toList_append (head?_toList_append (by decide) _) _) _
      · cases expandLine line with
        | error fault => exact hnone
        | ok instructions => exact ih _ _ _

/-- The first pass does not announce the second one. -/
theorem encoding_notMem_collect (lines : List String) :
    Event.encoding.text ∉ (collect lines).events.map Event.text := by
  intro h
  obtain ⟨event, hevent, htext⟩ := List.mem_map.mp h
  rcases List.mem_cons.mp hevent with rfl | hevent
  · exact absurd htext (by decide)
  · have hhead := head?_of_mem_collectFrom [] 0 1 lines event hevent
    rw [htext] at hhead
    exact absurd hhead (by decide)

/-- What a session with a log prints for a program that is assembled. -/
theorem printed_assemble {s : Session} (hs : s.verbose = true) {text : String} {words : List Int}
    (h : (s.assemble text).result = .ok words) :
    (s.assemble text).printed = (collect (lines text)).events.map Event.text ++
      Event.encoding.text :: (s.assemble text).session.entries.map (fun e => e.event.text) ++
        [Event.text (.instructionCount words.length)] := by
  obtain ⟨hd, entries, final, hyields⟩ := exists_yields_of_ok h
  obtain ⟨hresult, hsession⟩ := assemble_of_yields hd hyields
  obtain rfl := Except.ok.inj (hresult.symm.trans h)
  rw [hsession, assemble, collect_eq_ok.mpr ⟨hd, rfl⟩]
  dsimp only
  rw [logged, if_pos hs, Emission.events, hyields.failure?, hyields.entries, List.map_append,
    List.length_map]
  simp

/-- **The log only shows.** Whatever is done to it, the same calls have the same answers, and the
session is left the same. A session says nothing when the log is off, as it was set last. When it is
on, a program that is assembled has a line for each of its words, in order, from where the second
pass is announced. -/
theorem log_changes_nothing (table? : Option InstructionTable) (verbose : Bool)
    (calls : List Call) :
    (∀ verbose' calls', requests calls' = requests calls →
      (start table? verbose').observations calls' = (start table? verbose).observations calls) ∧
    (∀ call, flagAfter verbose calls = false →
      ((start table? verbose).run calls).printed call = []) ∧
    ∀ text words, flagAfter verbose calls = true →
      (((start table? verbose).run calls).assemble text).result = .ok words →
      ∃ before rows,
        (((start table? verbose).run calls).assemble text).printed
            = before ++ "\n=== Pass 2: Encoding instructions ===" :: rows ++
                ["\n  Total instructions: " ++ decimal words.length] ∧
          "\n=== Pass 2: Encoding instructions ===" ∉ before ∧
          (((start table? verbose).run calls).assemble text).session.words = words ∧
          (((start table? verbose).run calls).assemble text).session.ListsWords rows := by
  have hflag : ((start table? verbose).run calls).verbose = flagAfter verbose calls :=
    verbose_run _ calls
  refine ⟨fun verbose' calls' hcalls => ?_, fun call hquiet => ?_,
    fun text words hverbose hwords => ?_⟩
  · have hsame : (start table? verbose).SameButLog (start table? verbose') := ⟨verbose', rfl⟩
    have hself : (start table? verbose).SameButLog (start table? verbose) := ⟨verbose, rfl⟩
    rw [hsame.observations_eq, hself.observations_eq calls, hcalls]
  · exact printed_of_quiet (hflag.trans hquiet) call
  · obtain ⟨hholds, hheld, -⟩ := holds_of_ok hwords
    exact ⟨_, _, printed_assemble (hflag.trans hverbose) hwords, encoding_notMem_collect _, hheld,
      hholds.listsWords⟩

/-- Calls with a program that is refused among them. -/
def plainCalls : List Call :=
  [.assemble "nop\nfoo", .hexImage, .log "again", .assemble "loop: j loop"]

/-- The same calls, for the first of which there is a log, and after the last of which there is. -/
def switchedCalls : List Call :=
  [.setVerbose true, .assemble "nop\nfoo", .setVerbose false, .hexImage, .log "again",
    .assemble "loop: j loop", .setVerbose true]

theorem log_changes_nothing_switchedCalls :
    (start none false).observations switchedCalls = (start none true).observations plainCalls ∧
      ((start none false).run plainCalls).printed (.log "more") = [] ∧
      ∃ before rows,
        (((start none false).run switchedCalls).assemble "j next\nnext: li a0, 5000").printed
            = before ++ "\n=== Pass 2: Encoding instructions ===" :: rows ++
                ["\n  Total instructions: 3"] ∧
          (((start none false).run switchedCalls).assemble
            "j next\nnext: li a0, 5000").session.ListsWords rows := by
  have hresult : (((start none false).run switchedCalls).assemble
      "j next\nnext: li a0, 5000").result = .ok [0x0040006F, 0x00001537, 0x38850513] := by
    decide +kernel
  obtain ⟨before, rows, hprinted, -, -, hrows⟩ :=
    (log_changes_nothing none false switchedCalls).2.2 _ _ rfl hresult
  exact ⟨(log_changes_nothing none true plainCalls).1 false switchedCalls rfl,
    (log_changes_nothing none false plainCalls).2.1 _ rfl, before, rows, hprinted, hrows⟩

end Session

end RiscvAssembler
