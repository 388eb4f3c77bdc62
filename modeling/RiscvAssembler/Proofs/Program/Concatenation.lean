import Mathlib.Data.List.Nodup
import RiscvAssembler.Proofs.Program.Labels

/-!
# Programs one after the other

Two programs with a line feed between them are one program: the words of the first, followed by the
words of the second. The second one is moved up by the size of the first, and its branches and jumps
are not changed by that, since they and their labels move together. A label operand of any other
instruction is an address, so the second program must not have one; and no label may be defined in
both.

## Main definitions

* `PositionIndependent`: only branches and jumps have label operands.

## Main results

* `exists_lines_append`: the lines of both texts, with an empty line between them at most.
* `assembleInstruction_congr`: an instruction is assembled alike where its label has the same value.
* `Session.assemble_append`: the words and the symbols of two programs.
-/

namespace RiscvAssembler

open Text

/-! ### The seam -/

/-- A line feed ends the line before it, whatever follows. -/
theorem linesOf_append_cons (x y : List Char) :
    linesOf (x ++ '\n' :: y) = x.splitOn '\n' ++ linesOf y := by
  have hne := List.splitOn_ne_nil '\n' y
  have hgetLast : (x.splitOn '\n' ++ y.splitOn '\n').getLast? = (y.splitOn '\n').getLast? := by
    rw [List.getLast?_append, List.getLast?_eq_some_getLast hne, Option.some_or]
  rw [linesOf, linesOf, List.splitOn_append_cons_self, hgetLast,
    List.dropLast_append_of_ne_nil hne]
  split <;> rfl

/-- What is left out of the lines of a text is an empty line at most. -/
theorem exists_splitOn_eq (x : List Char) :
    ∃ seam, (seam = [] ∨ seam = [[]]) ∧ x.splitOn '\n' = linesOf x ++ seam := by
  rw [linesOf]
  by_cases h : (x.splitOn '\n').getLast? = some []
  · refine ⟨[[]], .inr rfl, ?_⟩
    rw [if_pos h, List.dropLast_append_getLast? _ h]
  · refine ⟨[], .inl rfl, ?_⟩
    rw [if_neg h, List.append_nil]

/-- **Two texts with a line feed between them** have the lines of both. The line feed ends the last
line of the first text; if that has ended with one already, there is an empty line in between. -/
theorem exists_lines_append (P Q : String) :
    ∃ seam, (seam = [] ∨ seam = [""]) ∧ lines (P ++ "\n" ++ Q) = (lines P ++ seam) ++ lines Q := by
  have hchars : (P ++ "\n" ++ Q).toList = P.toList ++ '\n' :: Q.toList := by simp
  obtain ⟨seam, hseam, hpieces⟩ := exists_splitOn_eq P.toList
  refine ⟨seam.map String.ofList, ?_, ?_⟩
  · rcases hseam with rfl | rfl
    · exact .inl rfl
    · exact .inr rfl
  · rw [lines, hchars, linesOf_append_cons, hpieces, List.map_append, List.map_append]
    rfl

/-! ### Instructions -/

section

variable {t : InstructionTable} {labels labels' : SymbolTable} {pc pc' w : Int}

/-- An immediate is the same with other labels and at another address, if a label that it names has
the same value there. A literal does not look at either. -/
theorem resolveImmediate_congr {token : String} {f : Format} {value : Int}
    (hblank : Unblanked token)
    (hvalue : isLabelName token = true → ∀ address, labels.lookup token = some address →
      ∃ address', labels'.lookup token = some address' ∧
        labelValue f address' pc' = labelValue f address pc)
    (h : resolveImmediate token labels pc f = .ok value) :
    resolveImmediate token labels' pc' f = .ok value := by
  cases hparse : parseImmediate token with
  | ok n =>
    rw [resolveImmediate_of_parseImmediate hblank hparse] at h ⊢
    exact h
  | error fault =>
    have hliteral : isLiteral token = false := by
      rw [isLiteral, hparse]
      rfl
    obtain ⟨hname, address, hlookup, rfl⟩ := (resolveImmediate_eq_ok hblank hliteral).mp h
    obtain ⟨address', hlookup', hsame⟩ := hvalue hname address hlookup
    rw [← hsame]
    exact resolveImmediate_of_isLabelName hblank hname hlookup'

/-- **An instruction is assembled alike** with other labels and at another address, if the label
that it has as an operand has the same value there. -/
theorem assembleInstruction_congr {tokens : List String}
    (hblank : ∀ token ∈ tokens, Unblanked token)
    (hvalue : ∀ i token address, t.find? (tokens.headD "") = some i →
      i.immediateToken? tokens = some token → isLabelName token = true →
        labels.lookup token = some address → ∃ address', labels'.lookup token = some address' ∧
          labelValue i.format address' pc' = labelValue i.format address pc)
    (h : assembleInstruction t labels pc tokens = .ok w) :
    assembleInstruction t labels' pc' tokens = .ok w := by
  obtain ⟨hne, i, hi, o, ho, hw⟩ := assembleInstruction_eq_ok.mp h
  obtain ⟨hlength, hvalues⟩ := readOperands_eq_ok.mp ho
  obtain ⟨hrd, hrs1, hrs2, himm⟩ := operandValues_eq_ok.mp hvalues
  -- only the immediate depends on the labels and the address
  have himm' : operandAt tokens (i.layout tokens).imm
      (fun operand => resolveImmediate operand labels' pc' i.format) = .ok o.imm := by
    cases hposition : (i.layout tokens).imm with
    | none =>
      rw [hposition, operandAt] at himm
      rw [operandAt]
      exact himm
    | some n =>
      rw [hposition, operandAt] at himm
      rw [operandAt]
      have htoken : i.immediateToken? tokens = some (tokens.getD n "") := by
        rw [Instruction.immediateToken?, hposition]
        rfl
      refine resolveImmediate_congr (unblanked_getD hblank n) ?_ himm
      exact fun hname address => hvalue i _ address hi htoken hname
  exact assembleInstruction_eq_ok.mpr ⟨hne, i, hi, o, readOperands_eq_ok.mpr
    ⟨hlength, operandValues_eq_ok.mpr ⟨hrd, hrs1, hrs2, himm'⟩⟩, hw⟩

end

/-- Label operands stand in the branches and jumps of a program only. -/
def PositionIndependent (t : InstructionTable) (lines : List String) : Prop :=
  ∀ p ∈ placements lines, ∀ i ∈ t.find? (p.tokens.headD ""),
    ∀ token ∈ i.immediateToken? p.tokens, isLabelName token = true → i.format.isRelative = true

instance (t : InstructionTable) (lines : List String) : Decidable (PositionIndependent t lines) :=
  List.decidableBAll _ (placements lines)

section

variable {t : InstructionTable} {front rest : List String} {p : Placement} {w : Int}

/-- The instructions of the first lines find their labels where they were. -/
theorem assembleInstruction_front (hp : p ∈ placements front)
    (h : assembleInstruction t (labelTable front) p.address p.tokens = .ok w) :
    assembleInstruction t (labelTable (front ++ rest)) p.address p.tokens = .ok w := by
  refine assembleInstruction_congr (Placement.isInstruction hp).unblanked ?_ h
  intro i token address _ _ _ hlookup
  refine ⟨address, ?_, rfl⟩
  rw [labelTable_append, List.lookup_append, hlookup, Option.some_or]

/-- **The instructions of the lines that follow** are as far from their labels as before. -/
theorem assembleInstruction_rest (hdisjoint : (labelNames front).Disjoint (labelNames rest))
    (hindependent : PositionIndependent t rest) (hp : p ∈ placements rest)
    (h : assembleInstruction t (labelTable rest) p.address p.tokens = .ok w) :
    assembleInstruction t (labelTable (front ++ rest)) (codeSize front + p.address) p.tokens
      = .ok w := by
  refine assembleInstruction_congr (Placement.isInstruction hp).unblanked ?_ h
  intro i token address hi htoken hname hlookup
  have hrelative := hindependent p hp i hi token htoken hname
  have hrest : token ∈ labelNames rest := by
    rw [← map_fst_labelTable]
    exact List.mem_map_of_mem (Dictionary.mem_of_lookup hlookup)
  have hfront : (labelTable front).lookup token = none := by
    rw [List.lookup_eq_none_iff]
    intro q hq
    have hfront : q.1 ∈ labelNames front := by
      rw [← map_fst_labelTable]
      exact List.mem_map_of_mem hq
    rw [bne_iff_ne]
    rintro rfl
    exact hdisjoint hfront hrest
  refine ⟨codeSize front + address, ?_, ?_⟩
  · rw [labelTable_append, List.lookup_append, hfront, Option.none_or, lookup_shiftLabels, hlookup]
    rfl
  · rw [labelValue_of_isRelative hrelative, labelValue_of_isRelative hrelative]
    omega

/-- The lines of two programs with labels of their own are those of a program. -/
theorem Declares.append (hfront : Declares front) (hrest : Declares rest)
    (hdisjoint : (labelNames front).Disjoint (labelNames rest)) : Declares (front ++ rest) := by
  refine ⟨fun line hline => ?_, ?_⟩
  · rcases List.mem_append.mp hline with hline | hline
    · exact hfront.expands line hline
    · exact hrest.expands line hline
  · have hnames := hfront.distinct
    have hmore := hrest.distinct
    rw [DistinctLabels, map_fst_labelTable] at hnames hmore ⊢
    rw [labelNames, List.filterMap_append]
    exact List.nodup_append'.mpr ⟨hnames, hmore, hdisjoint⟩

end

/-! ### Programs -/

/-- The lines make up a program with the given words. -/
structure HasWords (t : InstructionTable) (lines : List String) (words : List Int) : Prop where
  declares : Declares lines
  words : words.map .ok = (placements lines).map fun p =>
    assembleInstruction t (labelTable lines) p.address p.tokens

section

variable {t : InstructionTable} {front rest : List String} {words more : List Int}

theorem HasWords.codeSize_eq (h : HasWords t front words) : codeSize front = 4 * words.length := by
  have hlength := congrArg List.length h.words
  rw [List.length_map, List.length_map] at hlength
  rw [RiscvAssembler.codeSize_eq, hlength]

/-- **The words of lines and of the lines that follow** are those of all the lines. -/
theorem HasWords.append (hfront : HasWords t front words) (hrest : HasWords t rest more)
    (hdisjoint : (labelNames front).Disjoint (labelNames rest))
    (hindependent : PositionIndependent t rest) : HasWords t (front ++ rest) (words ++ more) := by
  refine ⟨hfront.declares.append hrest.declares hdisjoint, ?_⟩
  have hwords : (placements front).map (fun p =>
      assembleInstruction t (labelTable (front ++ rest)) p.address p.tokens) = words.map .ok :=
    map_eq_ok_of_forall hfront.words.symm fun p hp w hw => assembleInstruction_front hp hw
  have hmore : (placements rest).map (fun p => assembleInstruction t (labelTable (front ++ rest))
      (codeSize front + p.address) p.tokens) = more.map .ok :=
    map_eq_ok_of_forall hrest.words.symm fun p hp w hw =>
      assembleInstruction_rest hdisjoint hindependent hp hw
  rw [placements_append, List.map_append, List.map_append, List.map_map, hwords, ← hmore]
  rfl

/-- An empty line has no words. -/
theorem hasWords_emptyLine (t : InstructionTable) : HasWords t [""] [] := by
  refine ⟨⟨fun line hline => ⟨[], ?_⟩, List.nodup_nil⟩, rfl⟩
  rw [List.mem_singleton.mp hline]
  rfl

/-- An empty line at the end changes neither the words nor the labels. -/
theorem HasWords.append_seam (h : HasWords t front words) {seam : List String}
    (hseam : seam = [] ∨ seam = [""]) :
    HasWords t (front ++ seam) words ∧ labelTable (front ++ seam) = labelTable front := by
  rcases hseam with rfl | rfl
  · rw [List.append_nil]
    exact ⟨h, rfl⟩
  · have hindependent : PositionIndependent t [""] := fun p hp => absurd hp List.not_mem_nil
    have hwords := h.append (hasWords_emptyLine t) (List.disjoint_nil_right _) hindependent
    rw [List.append_nil] at hwords
    refine ⟨hwords, ?_⟩
    rw [labelTable_append]
    exact List.append_nil _

end

namespace Session

variable {s : Session} {P Q : String} {wordsP wordsQ : List Int}

/-- **Two programs with a line feed between them.** The words are those of the first and then those
of the second, unchanged, and the labels of the second are moved up by the size of the first. -/
theorem assemble_append (hP : (s.assemble P).result = .ok wordsP)
    (hQ : (s.assemble Q).result = .ok wordsQ)
    (hdisjoint : (labelNames (lines P)).Disjoint (labelNames (lines Q)))
    (hindependent : PositionIndependent s.table (lines Q)) :
    (s.assemble (P ++ "\n" ++ Q)).result = .ok (wordsP ++ wordsQ) ∧
      (s.assemble (P ++ "\n" ++ Q)).session.symbols = (s.assemble P).session.symbols ++
        shiftLabels (4 * wordsP.length) (s.assemble Q).session.symbols := by
  obtain ⟨hdeclaresP, hwordsP⟩ := assemble_eq_ok.mp hP
  obtain ⟨hdeclaresQ, hwordsQ⟩ := assemble_eq_ok.mp hQ
  obtain ⟨seam, hseam, hlines⟩ := exists_lines_append P Q
  obtain ⟨hfront, hlabels⟩ := HasWords.append_seam ⟨hdeclaresP, hwordsP⟩ hseam
  have hnames : (labelNames (lines P ++ seam)).Disjoint (labelNames (lines Q)) := by
    rwa [← map_fst_labelTable, hlabels, map_fst_labelTable]
  have hall := hfront.append ⟨hdeclaresQ, hwordsQ⟩ hnames hindependent
  have hresult : (s.assemble (P ++ "\n" ++ Q)).result = .ok (wordsP ++ wordsQ) := by
    rw [← hlines] at hall
    exact assemble_eq_ok.mpr ⟨hall.declares, hall.words⟩
  refine ⟨hresult, ?_⟩
  rw [(holds_of_ok hresult).1.symbols, (holds_of_ok hP).1.symbols, (holds_of_ok hQ).1.symbols,
    hlines, labelTable_append, hlabels, hfront.codeSize_eq]

/-- A program whose last line has a line feed. -/
def waitProgram : String :=
  "li a0, 0x1000000\nwait: addi a0, a0, -1\nbnez a0, wait\n"

/-- A program that ends in a jump to its start. -/
def blinkProgram : String :=
  "blink: xori a1, a1, 1\nsw a1, 0(a2)\nj blink"

/-- The jump is encoded as before, and its label stands after the three words before it. -/
theorem assemble_append_blinkProgram :
    ((start none false).assemble waitProgram).result = .ok [0x01000537, 0xFFF50513, 0xFE051EE3] ∧
      ((start none false).assemble blinkProgram).result
        = .ok [0x0015C593, 0x00B62023, 0xFF9FF06F] ∧
      (labelNames (lines waitProgram)).Disjoint (labelNames (lines blinkProgram)) ∧
      PositionIndependent (start none false).table (lines blinkProgram) ∧
      ((start none false).assemble (waitProgram ++ "\n" ++ blinkProgram)).result
        = .ok ([0x01000537, 0xFFF50513, 0xFE051EE3] ++ [0x0015C593, 0x00B62023, 0xFF9FF06F]) ∧
      ((start none false).assemble (waitProgram ++ "\n" ++ blinkProgram)).session.symbols
        = [("wait", 4), ("blink", 12)] := by
  have hP : ((start none false).assemble waitProgram).result
      = .ok [0x01000537, 0xFFF50513, 0xFE051EE3] := by decide +kernel
  have hQ : ((start none false).assemble blinkProgram).result
      = .ok [0x0015C593, 0x00B62023, 0xFF9FF06F] := by decide +kernel
  have hnames :
      ∀ name ∈ labelNames (lines waitProgram), name ∉ labelNames (lines blinkProgram) := by
    decide +kernel
  have hdisjoint : (labelNames (lines waitProgram)).Disjoint (labelNames (lines blinkProgram)) :=
    fun name => hnames name
  have hindependent : PositionIndependent (start none false).table (lines blinkProgram) := by
    decide +kernel
  obtain ⟨hwords, hsymbols⟩ := assemble_append hP hQ hdisjoint hindependent
  have hlabels : ((start none false).assemble waitProgram).session.symbols ++
      shiftLabels (4 * [0x01000537, 0xFFF50513, 0xFE051EE3].length)
        ((start none false).assemble blinkProgram).session.symbols
      = [("wait", 4), ("blink", 12)] := by decide +kernel
  exact ⟨hP, hQ, hdisjoint, hindependent, hwords, hsymbols.trans hlabels⟩

end Session

end RiscvAssembler
