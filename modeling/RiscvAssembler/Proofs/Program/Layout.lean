import RiscvAssembler.Program.Symbols
import RiscvAssembler.Proofs.Pseudo

/-!
# The layout of a program

Where the instructions of a program stand can be said without running either pass. A line stands for
the base instructions of its tokens after the label, each of which takes four bytes, so that a line
starts at four times the number of instructions before it. A label is the address of its line.

## Main definitions

* `lineExpansion`, `lineInstructions`: the base instructions of a line.
* `lineAddress`: the address at which a line starts.
* `placements`: every base instruction of a program with its place.
* `labelTable`, `labelNames`: every label of a program with its address, and without.

## Main results

* `placements_cons`, `labelTable_cons`: both grow at the front, what follows being shifted.
* `placements_append`, `labelTable_append`: so they do by any number of lines.
* `map_tokens_placements`: the instructions of the lines, one after the other.
* `map_tokens_address_placements`: where they stand, whatever lines they are on.
* `Placement.isInstruction`: no instruction has blanks or lacks a mnemonic.
* `Placement.address_emod`, `labelTable_emod`: all addresses are multiples of four.
-/

namespace RiscvAssembler

open Text

/-! ### Lines -/

/-- The base instructions of a line, however many tokens it has. -/
def lineExpansion (line : String) : Except Fault (List (List String)) :=
  match stripLabel (tokenize line) with
  | [] => .ok []
  | rest => expand rest

/-- The base instructions of a line, none if it cannot be expanded. -/
def lineInstructions (line : String) : List (List String) :=
  (lineExpansion line).toOption.getD []

theorem lineInstructions_of_eq_ok {line : String} {instructions : List (List String)}
    (h : lineExpansion line = .ok instructions) : lineInstructions line = instructions := by
  rw [lineInstructions, h]
  rfl

theorem expandLine_eq_ok {line : String} {instructions : List (List String)} :
    expandLine line = .ok instructions ↔
      (tokenize line).length ≤ tokenLimit ∧ lineExpansion line = .ok instructions := by
  rw [expandLine, expandTokens, checkTokenCount, lineExpansion]
  by_cases h : (tokenize line).length ≤ tokenLimit
  · simp only [h, true_and]
    rfl
  · simp only [h, false_and, iff_false]
    rintro ⟨⟩

/-- A line has no instruction, or one that is expanded. -/
theorem lineExpansion_eq_ok {line : String} {instructions : List (List String)}
    (h : lineExpansion line = .ok instructions) :
    stripLabel (tokenize line) = [] ∧ instructions = [] ∨
      stripLabel (tokenize line) ≠ [] ∧ ExpandsTo (stripLabel (tokenize line)) instructions := by
  rw [lineExpansion] at h
  split at h
  · rename_i hnil
    cases h
    exact .inl ⟨hnil, rfl⟩
  · rename_i hne
    exact .inr ⟨hne, expandsTo_of_eq_ok h⟩

/-- The base instructions of a line have mnemonics, and no blanks. -/
theorem isInstruction_of_mem_lineExpansion {line : String} {instructions : List (List String)}
    (h : lineExpansion line = .ok instructions) :
    ∀ tokens ∈ instructions, IsInstruction tokens := by
  rcases lineExpansion_eq_ok h with ⟨-, rfl⟩ | ⟨hne, hexpands⟩
  · exact fun _ h => absurd h List.not_mem_nil
  · refine hexpands.isInstruction ⟨hne, fun token htoken => ?_⟩
    exact unblanked_of_mem_tokenize (mem_of_mem_stripLabel htoken)

/-- The number of bytes that lines take. -/
def codeSize (lines : List String) : Int :=
  4 * (lines.flatMap lineInstructions).length

@[simp] theorem codeSize_nil : codeSize [] = 0 := rfl

@[simp] theorem codeSize_cons (line : String) (rest : List String) :
    codeSize (line :: rest) = 4 * (lineInstructions line).length + codeSize rest := by
  rw [codeSize, codeSize, List.flatMap_cons, List.length_append]
  omega

/-- The address at which the line at a position starts. -/
def lineAddress (lines : List String) (i : Nat) : Int :=
  codeSize (lines.take i)

@[simp] theorem lineAddress_zero (lines : List String) : lineAddress lines 0 = 0 := by
  simp [lineAddress]

@[simp] theorem lineAddress_cons_succ (line : String) (rest : List String) (i : Nat) :
    lineAddress (line :: rest) (i + 1)
      = 4 * (lineInstructions line).length + lineAddress rest i := by
  simp [lineAddress]

/-! ### Instructions in place -/

/-- A base instruction, its address, and the line that it comes from. -/
structure Placement where
  address : Int
  tokens : List String
  line : String
  number : Nat
  deriving DecidableEq, Repr

namespace Placement

/-- The place after `size` more bytes and `count` more lines. -/
def shift (size : Int) (count : Nat) (p : Placement) : Placement :=
  { p with address := size + p.address, number := count + p.number }

/-- The instruction comes from the line with the given number. -/
def isOn (number : Nat) (p : Placement) : Bool :=
  p.number == number

theorem isOn_comp_shift (number : Nat) (size : Int) :
    isOn (number + 1) ∘ shift size 1 = isOn number := by
  funext p
  have hnumber : (p.shift size 1).number = 1 + p.number := rfl
  rw [Function.comp_apply, isOn, isOn, Bool.eq_iff_iff, beq_iff_eq, beq_iff_eq, hnumber]
  omega

theorem shift_comp_shift (size size' : Int) (count count' : Nat) :
    shift size count ∘ shift size' count' = shift (size + size') (count + count') := by
  funext p
  simp [shift, Int.add_assoc, Nat.add_assoc]

@[simp] theorem shift_zero (p : Placement) : p.shift 0 0 = p := by
  simp [shift]

@[simp] theorem map_shift_zero (ps : List Placement) : ps.map (shift 0 0) = ps :=
  List.map_id'' shift_zero ps

end Placement

/-- Base instructions of one line, in place from `address` on. -/
def placeLine (line : String) (number : Nat) (address : Int) (instructions : List (List String)) :
    List Placement :=
  instructions.zipIdx.map fun p => ⟨address + 4 * p.2, p.1, line, number⟩

section

variable (line : String) (number : Nat) (address : Int) (instructions : List (List String))

@[simp] theorem placeLine_nil : placeLine line number address [] = [] := rfl

theorem placeLine_cons (tokens : List String) :
    placeLine line number address (tokens :: instructions)
      = ⟨address, tokens, line, number⟩ :: placeLine line number (address + 4) instructions := by
  rw [placeLine, List.zipIdx_cons, List.map_cons, List.zipIdx_succ, List.map_map, placeLine]
  congr 2
  · simp
  · funext p
    simp only [Function.comp_apply, Placement.mk.injEq, and_self, and_true]
    omega

@[simp] theorem length_placeLine :
    (placeLine line number address instructions).length = instructions.length := by
  simp [placeLine]

@[simp] theorem map_tokens_placeLine :
    (placeLine line number address instructions).map Placement.tokens = instructions := by
  rw [placeLine, List.map_map]
  exact List.zipIdx_map_fst 0 instructions

theorem isOn_of_mem_placeLine {line : String} {number : Nat} {address : Int}
    {instructions : List (List String)} {p : Placement}
    (hp : p ∈ placeLine line number address instructions) : p.isOn number = true := by
  obtain ⟨_, -, rfl⟩ := List.mem_map.mp hp
  exact beq_self_eq_true number

theorem shift_placeLine (size : Int) (count : Nat) :
    (placeLine line number address instructions).map (Placement.shift size count)
      = placeLine line (count + number) (size + address) instructions := by
  simp [placeLine, Placement.shift, Int.add_assoc]

end

/-- The base instructions of a program, in place. -/
def placements (lines : List String) : List Placement :=
  lines.zipIdx.flatMap fun p =>
    placeLine p.1 (p.2 + 1) (lineAddress lines p.2) (lineInstructions p.1)

@[simp] theorem placements_nil : placements [] = [] := rfl

/-- **The lines after the first one** are laid out by themselves and moved up. -/
theorem placements_cons (line : String) (rest : List String) :
    placements (line :: rest) = placeLine line 1 0 (lineInstructions line)
      ++ (placements rest).map (Placement.shift (4 * (lineInstructions line).length) 1) := by
  rw [placements, placements, List.zipIdx_cons, List.flatMap_cons, lineAddress_zero,
    List.map_flatMap, List.zipIdx_succ, List.flatMap_map]
  congr 2
  funext p
  rw [lineAddress_cons_succ, shift_placeLine, Nat.add_comm 1]

/-- **Lines after other lines** are laid out by themselves and moved up behind them. -/
theorem placements_append (lines more : List String) :
    placements (lines ++ more) = placements lines
      ++ (placements more).map (Placement.shift (codeSize lines) lines.length) := by
  induction lines with
  | nil => simp
  | cons line rest ih =>
    rw [List.cons_append, placements_cons, ih, List.map_append, List.map_map,
      Placement.shift_comp_shift, placements_cons, codeSize_cons, List.length_cons,
      Nat.add_comm 1, List.append_assoc]

/-- The layout has the instructions of all lines, in order. -/
theorem map_tokens_placements (lines : List String) :
    (placements lines).map Placement.tokens = lines.flatMap lineInstructions := by
  induction lines with
  | nil => rfl
  | cons line rest ih =>
    rw [placements_cons, List.map_append, map_tokens_placeLine, List.map_map, List.flatMap_cons,
      ← ih]
    rfl

/-- **An instruction stands where its number among all of them says**, whatever lines they are
on. -/
theorem map_tokens_address_placements (lines : List String) :
    (placements lines).map (fun p => (p.tokens, p.address))
      = (lines.flatMap lineInstructions).zipIdx.map fun q => (q.1, 4 * (q.2 : Int)) := by
  induction lines with
  | nil => rfl
  | cons line rest ih =>
    have hshift : (fun p : Placement => (p.tokens, p.address)) ∘
          Placement.shift (4 * (lineInstructions line).length) 1
        = (fun q : List String × Int => (q.1, 4 * (lineInstructions line).length + q.2)) ∘
          fun p : Placement => (p.tokens, p.address) := rfl
    rw [placements_cons, List.map_append, List.map_map, hshift, ← List.map_map, ih,
      List.flatMap_cons, List.zipIdx_append, List.map_append, Nat.zero_add,
      List.zipIdx_eq_map_add (i := (lineInstructions line).length), placeLine, List.map_map,
      List.map_map, List.map_map]
    congr 2
    · funext q
      simp
    · funext q
      simp [Int.mul_add]

/-- The instructions of a program stand four bytes apart. -/
theorem address_of_getElem?_placements {lines : List String} {i : Nat} {p : Placement}
    (h : (placements lines)[i]? = some p) : p.address = 4 * i := by
  have hplace : ((placements lines).map fun p => (p.tokens, p.address))[i]?
      = some (p.tokens, p.address) := by
    rw [List.getElem?_map, h, Option.map_some]
  rw [map_tokens_address_placements, List.getElem?_map, List.getElem?_zipIdx] at hplace
  obtain ⟨q, hq, hpair⟩ := Option.map_eq_some_iff.mp hplace
  obtain ⟨tokens, -, rfl⟩ := Option.map_eq_some_iff.mp hq
  rw [← (Prod.mk.inj hpair).2, Nat.zero_add]

/-- A program takes four bytes for each of its instructions. -/
theorem codeSize_eq (lines : List String) : codeSize lines = 4 * (placements lines).length := by
  induction lines with
  | nil => rfl
  | cons line rest ih =>
    rw [codeSize_cons, placements_cons, List.length_append, List.length_map, length_placeLine, ih]
    omega

/-- The base instructions of a program, by line and position in it. -/
theorem mem_placements {lines : List String} {p : Placement} :
    p ∈ placements lines ↔ ∃ i k : Nat, lines[i]? = some p.line ∧
      (lineInstructions p.line)[k]? = some p.tokens ∧
        p.address = lineAddress lines i + 4 * k ∧ p.number = i + 1 := by
  simp only [placements, placeLine, List.mem_flatMap, List.mem_map, Prod.exists,
    List.mem_zipIdx_iff_getElem?]
  constructor
  · rintro ⟨line, i, hline, tokens, k, htokens, rfl⟩
    exact ⟨i, k, hline, htokens, rfl, rfl⟩
  · rintro ⟨i, k, hline, htokens, haddress, hnumber⟩
    refine ⟨p.line, i, hline, p.tokens, k, htokens, ?_⟩
    rw [← haddress, ← hnumber]

theorem Placement.isInstruction {lines : List String} {p : Placement} (hp : p ∈ placements lines) :
    IsInstruction p.tokens := by
  obtain ⟨_, _, -, htokens, -, -⟩ := mem_placements.mp hp
  have hmem := List.mem_of_getElem? htokens
  cases h : lineExpansion p.line with
  | error fault =>
    rw [lineInstructions, h] at hmem
    cases hmem
  | ok instructions =>
    rw [lineInstructions_of_eq_ok h] at hmem
    exact isInstruction_of_mem_lineExpansion h _ hmem

theorem Placement.number_pos {lines : List String} {p : Placement} (hp : p ∈ placements lines) :
    0 < p.number := by
  obtain ⟨i, _, -, -, -, hnumber⟩ := mem_placements.mp hp
  omega

/-- **The instructions of one line** are those of its expansion. -/
theorem filter_placements {lines : List String} {n : Nat} {line : String}
    (h : lines[n]? = some line) :
    (placements lines).filter (Placement.isOn (n + 1))
      = placeLine line (n + 1) (lineAddress lines n) (lineInstructions line) := by
  induction lines generalizing n with
  | nil => cases h
  | cons first rest ih =>
    rw [placements_cons, List.filter_append, List.filter_map, Placement.isOn_comp_shift]
    cases n with
    | zero =>
      cases h
      -- the numbers of the lines that follow are at least one before they are moved up
      have hnone : (placements rest).filter (Placement.isOn 0) = [] :=
        List.filter_eq_nil_iff.mpr fun p hp => by
          have := Placement.number_pos hp
          rw [Placement.isOn, beq_iff_eq]
          omega
      rw [List.filter_eq_self.mpr fun p hp => isOn_of_mem_placeLine hp, hnone, List.map_nil,
        List.append_nil, lineAddress_zero]
    | succ n =>
      have hnone : (placeLine first 1 0 (lineInstructions first)).filter
          (Placement.isOn (n + 1 + 1)) = [] :=
        List.filter_eq_nil_iff.mpr fun p hp => by
          have := beq_iff_eq.mp (isOn_of_mem_placeLine hp)
          rw [Placement.isOn, beq_iff_eq]
          omega
      rw [hnone, List.nil_append, ih h, shift_placeLine, lineAddress_cons_succ, Nat.add_comm 1]

/-- The lines of the instructions are in order. -/
theorem pairwise_number_placements (lines : List String) :
    (placements lines).Pairwise fun p q => p.number ≤ q.number := by
  have hnumber : ∀ {line : String} {instructions : List (List String)},
      ∀ p ∈ placeLine line 1 0 instructions, p.number = 1 := fun p hp =>
    beq_iff_eq.mp (isOn_of_mem_placeLine hp)
  induction lines with
  | nil => exact .nil
  | cons line rest ih =>
    rw [placements_cons, List.pairwise_append, List.pairwise_map]
    refine ⟨List.pairwise_of_forall_mem_list fun p hp q hq => ?_, ?_, fun p hp q hq => ?_⟩
    · exact Nat.le_of_eq ((hnumber p hp).trans (hnumber q hq).symm)
    · exact ih.imp fun h => Nat.add_le_add_left h 1
    · obtain ⟨q, -, rfl⟩ := List.mem_map.mp hq
      rw [hnumber p hp]
      exact Nat.le_add_right 1 q.number

theorem lineAddress_nonneg (lines : List String) (i : Nat) : 0 ≤ lineAddress lines i := by
  rw [lineAddress, codeSize]
  omega

theorem lineAddress_emod (lines : List String) (i : Nat) : lineAddress lines i % 4 = 0 :=
  Int.mul_emod_right ..

/-- Instructions stand at multiples of four. -/
theorem Placement.address_emod {lines : List String} {p : Placement} (hp : p ∈ placements lines) :
    p.address % 4 = 0 := by
  obtain ⟨i, k, -, -, haddress, -⟩ := mem_placements.mp hp
  have := lineAddress_emod lines i
  omega

/-! ### Labels -/

/-- The labels of a program with the addresses of their lines. -/
def labelTable (lines : List String) : SymbolTable :=
  lines.zipIdx.filterMap fun p =>
    (leadingLabel? (tokenize p.1)).map fun label => (label, lineAddress lines p.2)

/-- The labels with their addresses after `size` more bytes. -/
def shiftLabels (size : Int) (symbols : SymbolTable) : SymbolTable :=
  symbols.map fun p => (p.1, size + p.2)

@[simp] theorem shiftLabels_zero (symbols : SymbolTable) : shiftLabels 0 symbols = symbols := by
  simp [shiftLabels]

@[simp] theorem shiftLabels_append (size : Int) (symbols more : SymbolTable) :
    shiftLabels size (symbols ++ more) = shiftLabels size symbols ++ shiftLabels size more :=
  List.map_append

@[simp] theorem shiftLabels_shiftLabels (size size' : Int) (symbols : SymbolTable) :
    shiftLabels size (shiftLabels size' symbols) = shiftLabels (size + size') symbols := by
  simp [shiftLabels, Int.add_assoc]

@[simp] theorem map_fst_shiftLabels (size : Int) (symbols : SymbolTable) :
    (shiftLabels size symbols).map Prod.fst = symbols.map Prod.fst := by
  rw [shiftLabels, List.map_map]
  rfl

/-- A label is found at its old address, moved up. -/
theorem lookup_shiftLabels (size : Int) (symbols : SymbolTable) (label : String) :
    (shiftLabels size symbols).lookup label = (symbols.lookup label).map (size + ·) := by
  induction symbols with
  | nil => rfl
  | cons p symbols ih =>
    obtain ⟨name, address⟩ := p
    rw [shiftLabels, List.map_cons, List.lookup_cons, List.lookup_cons]
    cases label == name with
    | true => rfl
    | false => exact ih

@[simp] theorem labelTable_nil : labelTable [] = [] := rfl

theorem labelTable_cons (line : String) (rest : List String) :
    labelTable (line :: rest)
      = ((leadingLabel? (tokenize line)).map fun label => (label, (0 : Int))).toList
        ++ shiftLabels (4 * (lineInstructions line).length) (labelTable rest) := by
  have hrest : (rest.zipIdx (0 + 1)).filterMap (fun p =>
      (leadingLabel? (tokenize p.1)).map fun label => (label, lineAddress (line :: rest) p.2))
      = shiftLabels (4 * (lineInstructions line).length) (labelTable rest) := by
    rw [shiftLabels, labelTable, List.zipIdx_succ, List.filterMap_map, List.map_filterMap]
    congr 1
    funext p
    simp [Function.comp_def]
  rw [labelTable, List.zipIdx_cons, List.filterMap_cons, hrest, lineAddress_zero]
  cases leadingLabel? (tokenize line) <;> rfl

theorem labelTable_singleton (line : String) :
    labelTable [line]
      = ((leadingLabel? (tokenize line)).map fun label => (label, (0 : Int))).toList := by
  rw [labelTable_cons, labelTable_nil]
  exact List.append_nil _

/-- The labels of lines after other lines are moved up behind these. -/
theorem labelTable_append (lines more : List String) :
    labelTable (lines ++ more)
      = labelTable lines ++ shiftLabels (codeSize lines) (labelTable more) := by
  induction lines with
  | nil => simp
  | cons line rest ih =>
    rw [List.cons_append, labelTable_cons, ih, shiftLabels_append, shiftLabels_shiftLabels,
      labelTable_cons, codeSize_cons, List.append_assoc]

/-- The names of the labels that lines define. -/
def labelNames (lines : List String) : List String :=
  lines.filterMap fun line => leadingLabel? (tokenize line)

/-- Every label has one line. -/
theorem map_fst_labelTable (lines : List String) :
    (labelTable lines).map Prod.fst = labelNames lines := by
  induction lines with
  | nil => rfl
  | cons line rest ih =>
    rw [labelTable_cons, List.map_append, map_fst_shiftLabels, ih, labelNames, labelNames,
      List.filterMap_cons]
    cases leadingLabel? (tokenize line) <;> rfl

/-- The labels of a program at `address`, from the first line on. -/
theorem shiftLabels_labelTable_cons (address : Int) (line : String) (rest : List String) :
    shiftLabels address (labelTable (line :: rest))
      = ((leadingLabel? (tokenize line)).map fun label => (label, address)).toList
        ++ shiftLabels (address + 4 * (lineInstructions line).length) (labelTable rest) := by
  rw [labelTable_cons, shiftLabels_append, shiftLabels_shiftLabels]
  cases leadingLabel? (tokenize line) <;> simp [shiftLabels]

/-- A label is the address of a line. -/
theorem exists_lineAddress_of_mem_labelTable {lines : List String} {label : String} {address : Int}
    (h : (label, address) ∈ labelTable lines) : ∃ i, address = lineAddress lines i := by
  obtain ⟨⟨line, i⟩, -, hlabel⟩ := List.mem_filterMap.mp h
  obtain ⟨_, -, heq⟩ := Option.map_eq_some_iff.mp hlabel
  cases heq
  exact ⟨i, rfl⟩

/-- Labels are multiples of four. -/
theorem labelTable_emod {lines : List String} {label : String} {address : Int}
    (h : (label, address) ∈ labelTable lines) : address % 4 = 0 := by
  obtain ⟨i, rfl⟩ := exists_lineAddress_of_mem_labelTable h
  exact lineAddress_emod lines i

theorem labelTable_nonneg {lines : List String} {label : String} {address : Int}
    (h : (label, address) ∈ labelTable lines) : 0 ≤ address := by
  obtain ⟨i, rfl⟩ := exists_lineAddress_of_mem_labelTable h
  exact lineAddress_nonneg lines i

end RiscvAssembler
