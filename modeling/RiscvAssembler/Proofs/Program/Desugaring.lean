import RiscvAssembler.Proofs.Program.Concatenation
import RiscvAssembler.Proofs.Text.Lowercase
import RiscvAssembler.Proofs.Token.Spacing
import RiscvAssembler.Proofs.Word.Disassembly

/-!
# Programs without pseudo-instructions

A program can be written out in base instructions: a line for each label, and a line for each base
instruction that a line stands for. Nothing moves by that, since instructions stand one after the
other whatever lines they are on, and a label still comes before the same instruction. The text of a
base instruction is taken apart into the tokens that it was put together from: these have no
delimiter or comment marker in them, and the first one is a mnemonic and so no label.

## Main definitions

* `desugarLine`, `desugar`: the lines that a line is written out to, and the text of a program.
* `SameLayout`: lines with the same instructions and labels, differently arranged.
* `IsBaseInstruction`: the tokens of an instruction that stands for itself.

## Main results

* `HasWords.congr`: lines laid out alike have the same words.
* `sameLayout_desugar`: writing out the lines of a text changes nothing.
* `Session.assemble_desugar`: a program written out has the same words and symbols.
-/

namespace RiscvAssembler

open Text

/-! ### Writing out -/

/-- The token that defines the label of a line. -/
def labelToken? (line : String) : Option String :=
  (tokenize line).head?.filter isLabel

/-- The lines that a line is written out to: its label, and then its base instructions. -/
def desugarLine (line : String) : List String :=
  (labelToken? line).toList ++ (lineInstructions line).map spaced

/-- The text of a program written out, from its lines. -/
def desugar (text : String) : String :=
  unlines ((lines text).flatMap desugarLine)

/-! ### Lines laid out alike -/

/-- The lines have the same instructions in the same order, and the same labels at the same
addresses. -/
structure SameLayout (ls ls' : List String) : Prop where
  instructions : ls'.flatMap lineInstructions = ls.flatMap lineInstructions
  labels : labelTable ls' = labelTable ls

section

variable {ls ls' more more' : List String}

theorem SameLayout.codeSize_eq (h : SameLayout ls ls') : codeSize ls' = codeSize ls := by
  rw [codeSize, codeSize, h.instructions]

theorem SameLayout.append (h : SameLayout ls ls') (hmore : SameLayout more more') :
    SameLayout (ls ++ more) (ls' ++ more') := by
  constructor
  · rw [List.flatMap_append, List.flatMap_append, h.instructions, hmore.instructions]
  · rw [labelTable_append, labelTable_append, h.labels, hmore.labels, h.codeSize_eq]

/-- Lines are laid out as before if each of them is put in other words. -/
theorem sameLayout_flatMap {f : String → List String}
    (h : ∀ line ∈ ls, SameLayout [line] (f line)) : SameLayout ls (ls.flatMap f) := by
  induction ls with
  | nil => exact ⟨rfl, rfl⟩
  | cons line rest ih =>
    obtain ⟨hline, hrest⟩ := List.forall_mem_cons.mp h
    exact hline.append (ih hrest)

/-- **Lines laid out alike have the same words**, if they have a meaning. -/
theorem HasWords.congr {t : InstructionTable} {words : List Int} (h : HasWords t ls words)
    (hlayout : SameLayout ls ls')
    (hexpands : ∀ line ∈ ls', ∃ instructions, expandLine line = .ok instructions) :
    HasWords t ls' words := by
  have hplaces : (placements ls').map (fun p => (p.tokens, p.address))
      = (placements ls).map fun p => (p.tokens, p.address) := by
    rw [map_tokens_address_placements, map_tokens_address_placements, hlayout.instructions]
  have hwords := congrArg
    (List.map fun q => assembleInstruction t (labelTable ls) q.2 q.1) hplaces
  rw [List.map_map, List.map_map] at hwords
  refine ⟨⟨hexpands, ?_⟩, ?_⟩
  · rw [hlayout.labels]
    exact h.declares.distinct
  · rw [h.words, hlayout.labels]
    exact hwords.symm

end

/-! ### Base instructions -/

/-- The tokens are those of an instruction that stands for itself, and of its line, if there is
nothing else on it. -/
structure IsBaseInstruction (tokens : List String) : Prop where
  ne_nil : tokens ≠ []
  isToken : ∀ token ∈ tokens, IsToken token
  length_le : tokens.length ≤ tokenLimit
  isLabel_eq_false : isLabel (tokens.headD "") = false
  isPseudo_eq_false : isPseudo tokens = false

namespace IsBaseInstruction

variable {tokens : List String}

theorem stripLabel_eq (h : IsBaseInstruction tokens) : stripLabel tokens = tokens := by
  obtain ⟨mnemonic, operands, rfl⟩ := List.exists_cons_of_ne_nil h.ne_nil
  have hlabel : isLabel mnemonic = false := h.isLabel_eq_false
  rw [stripLabel, hlabel]
  rfl

theorem leadingLabel?_eq (h : IsBaseInstruction tokens) : leadingLabel? tokens = none := by
  obtain ⟨mnemonic, operands, rfl⟩ := List.exists_cons_of_ne_nil h.ne_nil
  have hlabel : isLabel mnemonic = false := h.isLabel_eq_false
  rw [leadingLabel?, hlabel]
  rfl

theorem expand_eq (h : IsBaseInstruction tokens) : expand tokens = .ok [tokens] :=
  expand_eq_self h.isPseudo_eq_false

theorem tokenize_eq (h : IsBaseInstruction tokens) : tokenize (spaced tokens) = tokens :=
  tokenize_spaced h.isToken

theorem lineExpansion_eq (h : IsBaseInstruction tokens) :
    lineExpansion (spaced tokens) = .ok [tokens] := by
  rw [lineExpansion, h.tokenize_eq, h.stripLabel_eq]
  split
  · exact absurd rfl h.ne_nil
  · exact h.expand_eq

theorem expandLine_eq (h : IsBaseInstruction tokens) :
    expandLine (spaced tokens) = .ok [tokens] := by
  rw [expandLine_eq_ok, h.tokenize_eq]
  exact ⟨h.length_le, h.lineExpansion_eq⟩

end IsBaseInstruction

/-! ### Lines written out -/

section

variable {line : String}

/-- What a line is written out to, if its instructions are base instructions: a label that is one of
its tokens, and lines that stand for themselves. -/
theorem mem_desugarLine (h : ∀ tokens ∈ lineInstructions line, IsBaseInstruction tokens)
    {written : String} (hwritten : written ∈ desugarLine line) :
    (IsToken written ∧ isLabel written = true) ∨
      ∃ tokens, IsBaseInstruction tokens ∧ written = spaced tokens := by
  rcases List.mem_append.mp hwritten with hlabel | hinstruction
  · obtain ⟨hhead, hlabel⟩ := Option.filter_eq_some_iff.mp (Option.mem_toList.mp hlabel)
    exact .inl ⟨isToken_of_mem_tokenize (List.mem_of_mem_head? hhead), hlabel⟩
  · obtain ⟨tokens, htokens, rfl⟩ := List.mem_map.mp hinstruction
    exact .inr ⟨tokens, h tokens htokens, rfl⟩

theorem leadingLabel?_eq (tokens : List String) :
    leadingLabel? tokens = (tokens.head?.filter isLabel).map labelName := by
  cases tokens with
  | nil => rfl
  | cons token rest =>
    rw [leadingLabel?, List.head?_cons, Option.filter_some]
    split <;> rfl

/-- A label alone on a line. -/
theorem stripLabel_of_isLabel {token : String} (htoken : IsToken token)
    (hlabel : isLabel token = true) : stripLabel (tokenize token) = [] := by
  rw [htoken.tokenize_eq, stripLabel, hlabel]
  rfl

theorem expandLine_of_isLabel {token : String} (htoken : IsToken token)
    (hlabel : isLabel token = true) : expandLine token = .ok [] := by
  rw [expandLine_eq_ok, lineExpansion, stripLabel_of_isLabel htoken hlabel, htoken.tokenize_eq]
  exact ⟨Nat.le_add_left 1 4, rfl⟩

/-- The lines of base instructions have these instructions, and no labels. -/
theorem flatMap_lineInstructions_spaced {instructions : List (List String)}
    (h : ∀ tokens ∈ instructions, IsBaseInstruction tokens) :
    (instructions.map spaced).flatMap lineInstructions = instructions := by
  induction instructions with
  | nil => rfl
  | cons tokens rest ih =>
    obtain ⟨htokens, hrest⟩ := List.forall_mem_cons.mp h
    rw [List.map_cons, List.flatMap_cons, lineInstructions_of_eq_ok htokens.lineExpansion_eq,
      ih hrest]
    rfl

theorem labelTable_spaced {instructions : List (List String)}
    (h : ∀ tokens ∈ instructions, IsBaseInstruction tokens) :
    labelTable (instructions.map spaced) = [] := by
  have hnames : labelNames (instructions.map spaced) = [] := by
    rw [labelNames, List.filterMap_map, List.filterMap_eq_nil_iff]
    intro tokens htokens
    rw [Function.comp_apply, (h tokens htokens).tokenize_eq, (h tokens htokens).leadingLabel?_eq]
  rw [← map_fst_labelTable] at hnames
  exact List.map_eq_nil_iff.mp hnames

/-- The label of a line is defined by its token alone, which brings no instruction with it. -/
theorem sameLayout_labelToken? (line : String) :
    (labelToken? line).toList.flatMap lineInstructions = [] ∧
      labelTable (labelToken? line).toList = labelTable [line] := by
  cases htoken : labelToken? line with
  | none =>
    have hnone : leadingLabel? (tokenize line) = none := by
      rw [leadingLabel?_eq, ← labelToken?, htoken, Option.map_none]
    rw [labelTable_singleton, hnone]
    exact ⟨rfl, rfl⟩
  | some token =>
    obtain ⟨hhead, hlabel⟩ := Option.filter_eq_some_iff.mp htoken
    have hisToken := isToken_of_mem_tokenize (List.mem_of_mem_head? hhead)
    have hexpand := (expandLine_eq_ok.mp (expandLine_of_isLabel hisToken hlabel)).2
    have hname : leadingLabel? (tokenize token) = leadingLabel? (tokenize line) := by
      rw [leadingLabel?_eq, leadingLabel?_eq, hisToken.tokenize_eq, ← labelToken?, htoken,
        List.head?_cons, Option.filter_some, if_pos hlabel]
    rw [Option.toList_some, labelTable_singleton, labelTable_singleton, hname,
      List.flatMap_singleton, lineInstructions_of_eq_ok hexpand]
    exact ⟨rfl, rfl⟩

/-- **Writing out a line changes nothing** about what is laid out. -/
theorem sameLayout_desugarLine
    (h : ∀ tokens ∈ lineInstructions line, IsBaseInstruction tokens) :
    SameLayout [line] (desugarLine line) := by
  obtain ⟨hnone, hlabel⟩ := sameLayout_labelToken? line
  constructor
  · rw [desugarLine, List.flatMap_append, hnone, flatMap_lineInstructions_spaced h,
      List.flatMap_singleton, List.nil_append]
  · rw [desugarLine, labelTable_append, labelTable_spaced h, hlabel]
    exact List.append_nil _

end

/-! ### Programs -/

theorem bringsIn_isToken : Pseudo.BringsIn IsToken where
  fixed := by
    have hplain : ∀ text ∈ Pseudo.fixedTexts, text.toList ≠ [] ∧ Plain text.toList := by decide
    exact fun text htext => isToken_of_plain (hplain text htext).1 (hplain text htext).2
  decimal n := isToken_of_plain (decimal_ne_nil n) (plain_decimal n)

/-- What an instruction stands for consists of tokens. -/
theorem isToken_of_mem_lineInstructions {line : String} {tokens : List String}
    (h : tokens ∈ lineInstructions line) :
    (∀ token ∈ tokens, IsToken token) ∧ isPseudo tokens = false := by
  rw [lineInstructions] at h
  cases hline : lineExpansion line with
  | error fault =>
    rw [hline] at h
    cases h
  | ok instructions =>
    rw [hline] at h
    rcases lineExpansion_eq_ok hline with ⟨-, rfl⟩ | ⟨-, hexpands⟩
    · cases h
    · refine ⟨hexpands.forall_mem bringsIn_isToken ?_ ?_ _ h, hexpands.isPseudo_eq_false _ h⟩
      · exact fun token htoken => unblanked_of_mem_tokenize (mem_of_mem_stripLabel htoken)
      · exact fun token htoken => isToken_of_mem_tokenize (mem_of_mem_stripLabel htoken)

/-- A token is no label in any letter case if it has no colon in small letters. -/
theorem isLabel_of_lowercase {token : String} (h : ':' ∉ (lowercase token).toList) :
    isLabel token = false := by
  have hcapital : ¬ IsCapital ':' := by decide +kernel
  rw [isLabel, Bool.and_eq_false_iff, beq_eq_false_iff_ne]
  refine .inr fun hlast => h ?_
  rw [lowercase, String.toList_ofList]
  exact mem_lowercaseAfter hcapital (List.mem_of_getLast? hlast)

/-- No mnemonic of RV32I, in any case, is a label. -/
theorem isLabel_of_find?_rv32i {mnemonic : String} {i : Instruction}
    (h : InstructionTable.rv32i.find? mnemonic = some i) : isLabel mnemonic = false := by
  have hcolon : ∀ p ∈ InstructionTable.rv32i.instructions, ':' ∉ p.1.toList := by decide
  have hnot := hcolon _ (InstructionTable.mem_of_find? h)
  exact isLabel_of_lowercase hnot

/-- An instruction that is assembled fits on a line. -/
theorem length_le_of_assembleInstruction {t : InstructionTable} {labels : SymbolTable} {pc w : Int}
    {tokens : List String} (h : assembleInstruction t labels pc tokens = .ok w) :
    tokens.length ≤ tokenLimit := by
  obtain ⟨-, i, -, o, ho, -⟩ := assembleInstruction_eq_ok.mp h
  have hcount : (i.layout tokens).operandCount ≤ 4 := List.length_filter_le _ _
  rw [(readOperands_eq_ok.mp ho).1]
  exact Nat.succ_le_succ hcount

/-- **The instructions of a program that is assembled** stand for themselves. -/
theorem isBaseInstruction_of_assembles {ls : List String} (h : Assembles .rv32i ls) {line : String}
    (hline : line ∈ ls) : ∀ tokens ∈ lineInstructions line, IsBaseInstruction tokens := by
  intro tokens htokens
  have hmem : tokens ∈ ls.flatMap lineInstructions := List.mem_flatMap.mpr ⟨line, hline, htokens⟩
  rw [← map_tokens_placements] at hmem
  obtain ⟨p, hp, rfl⟩ := List.mem_map.mp hmem
  obtain ⟨word, hword⟩ := h.encodes p hp
  obtain ⟨hne, i, hi, -⟩ := assembleInstruction_eq_ok.mp hword
  obtain ⟨hisToken, hisPseudo⟩ := isToken_of_mem_lineInstructions htokens
  exact ⟨hne, hisToken, length_le_of_assembleInstruction hword, isLabel_of_find?_rv32i hi,
    hisPseudo⟩

section

variable {text : String}

/-- The lines of a text that is written out are those that its lines are written out to. -/
theorem lines_desugar
    (h : ∀ line ∈ lines text, ∀ tokens ∈ lineInstructions line, IsBaseInstruction tokens) :
    lines (desugar text) = (lines text).flatMap desugarLine := by
  refine lines_unlines (fun written hwritten => ?_) fun written hwritten => ?_ <;>
    obtain ⟨line, hline, hwritten⟩ := List.mem_flatMap.mp hwritten <;>
    rcases mem_desugarLine (h line hline) hwritten with ⟨htoken, -⟩ | ⟨tokens, htokens, rfl⟩
  · exact htoken.ne_nil
  · exact spaced_ne_nil htokens.ne_nil htokens.isToken
  · exact htoken.newline_notMem
  · exact newline_notMem_spaced htokens.isToken

/-- Each of them is a label, or a base instruction. -/
theorem mem_lines_desugar
    (h : ∀ line ∈ lines text, ∀ tokens ∈ lineInstructions line, IsBaseInstruction tokens)
    {written : String} (hwritten : written ∈ lines (desugar text)) :
    (IsToken written ∧ isLabel written = true) ∨
      ∃ tokens, IsBaseInstruction tokens ∧ written = spaced tokens := by
  rw [lines_desugar h] at hwritten
  obtain ⟨line, hline, hwritten⟩ := List.mem_flatMap.mp hwritten
  exact mem_desugarLine (h line hline) hwritten

/-- **A text that is written out is laid out as before**, and all of its lines have a meaning. -/
theorem sameLayout_desugar
    (h : ∀ line ∈ lines text, ∀ tokens ∈ lineInstructions line, IsBaseInstruction tokens) :
    SameLayout (lines text) (lines (desugar text)) ∧
      ∀ line ∈ lines (desugar text), ∃ instructions, expandLine line = .ok instructions := by
  constructor
  · rw [lines_desugar h]
    exact sameLayout_flatMap fun line hline => sameLayout_desugarLine (h line hline)
  · intro line hline
    rcases mem_lines_desugar h hline with ⟨htoken, hlabel⟩ | ⟨tokens, htokens, rfl⟩
    · exact ⟨_, expandLine_of_isLabel htoken hlabel⟩
    · exact ⟨_, htokens.expandLine_eq⟩

/-- **No pseudo-instruction is left** in a text that is written out. -/
theorem isPseudo_of_mem_lines_desugar
    (h : ∀ line ∈ lines text, ∀ tokens ∈ lineInstructions line, IsBaseInstruction tokens)
    {line : String} (hline : line ∈ lines (desugar text)) :
    isPseudo (stripLabel (tokenize line)) = false := by
  rcases mem_lines_desugar h hline with ⟨htoken, hlabel⟩ | ⟨tokens, htokens, rfl⟩
  · rw [stripLabel_of_isLabel htoken hlabel]
    rfl
  · rw [htokens.tokenize_eq, htokens.stripLabel_eq]
    exact htokens.isPseudo_eq_false

end

namespace Session

variable {s : Session} {text : String} {words : List Int}

/-- **A program written out in base instructions** is the same program: it has the same words and
the same symbols, and no line of it is a pseudo-instruction. -/
theorem assemble_desugar (hs : s.table = .rv32i) (h : (s.assemble text).result = .ok words) :
    lines (desugar text) = (lines text).flatMap desugarLine ∧
      (s.assemble (desugar text)).result = .ok words ∧
      (s.assemble (desugar text)).session.symbols = (s.assemble text).session.symbols ∧
      ∀ line ∈ lines (desugar text), isPseudo (stripLabel (tokenize line)) = false := by
  obtain ⟨hholds, -, htable⟩ := holds_of_ok h
  have hassembles : Assembles .rv32i (lines text) := by
    rw [← hs, ← htable]
    exact assembles_iff.mpr ⟨hholds.declares, _, hholds.emitted⟩
  have hbase : ∀ line ∈ lines text, ∀ tokens ∈ lineInstructions line, IsBaseInstruction tokens :=
    fun line hline => isBaseInstruction_of_assembles hassembles hline
  obtain ⟨hlayout, hexpands⟩ := sameLayout_desugar hbase
  obtain ⟨hdeclares, hwords⟩ := assemble_eq_ok.mp h
  have hsame : HasWords s.table (lines (desugar text)) words :=
    HasWords.congr ⟨hdeclares, hwords⟩ hlayout hexpands
  have hresult : (s.assemble (desugar text)).result = .ok words :=
    assemble_eq_ok.mpr ⟨hsame.declares, hsame.words⟩
  refine ⟨lines_desugar hbase, hresult, ?_, fun line => isPseudo_of_mem_lines_desugar hbase⟩
  rw [(holds_of_ok hresult).1.symbols, hholds.symbols, hlayout.labels]

/-- A program with a label that has a slash in it, a constant of two words, and a comment. -/
def slashProgram : String :=
  "# start\nin/out: li a0, 0x12345 // both\n  beqz a0, end\n\nend:\tRET"

/-- The constant takes two lines, and the label of the return a line of its own. -/
theorem assemble_desugar_slashProgram :
    (start none false).table = .rv32i ∧
      ((start none false).assemble slashProgram).result
        = .ok [0x00012537, 0x34550513, 0x00050263, 0x00008067] ∧
      desugar slashProgram
        = "in/out:\nlui a0 18\naddi a0 a0 837\nbeq a0 x0 end\nend:\njalr x0 ra 0" ∧
      ((start none false).assemble (desugar slashProgram)).result
        = .ok [0x00012537, 0x34550513, 0x00050263, 0x00008067] ∧
      ((start none false).assemble (desugar slashProgram)).session.symbols
        = [("in/out", 0), ("end", 12)] := by
  have hwords : ((start none false).assemble slashProgram).result
      = .ok [0x00012537, 0x34550513, 0x00050263, 0x00008067] := by decide +kernel
  have hsymbols : ((start none false).assemble slashProgram).session.symbols
      = [("in/out", 0), ("end", 12)] := by decide +kernel
  obtain ⟨-, hresult, hsame, -⟩ := assemble_desugar rfl hwords
  exact ⟨rfl, hwords, by decide +kernel, hresult, hsame.trans hsymbols⟩

end Session

end RiscvAssembler
