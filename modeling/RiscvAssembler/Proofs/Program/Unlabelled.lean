import Mathlib.Data.List.Forall2
import RiscvAssembler.Proofs.Program.Passes
import RiscvAssembler.Proofs.Token

/-!
# Programs without labels

Where a line has no label, nothing but its expansion matters. A program of such lines has no labels
at all, so that its instructions are assembled against an empty table of symbols, and the words are
those of the instructions of one line after the other.

## Main definitions

* `Unlabelled`: a line that has no label and no comment.
* `StandsFor`: such a line and the base instructions that it stands for.

## Main results

* `Session.assemble_unlines`: a program is assembled to the words of its instructions.
* `StandsFor.assemble_eq_ok`, `StandsFor.assemble_eq`: programs of one line, and of one instruction.
* `Unlabelled.assemble_eq_error`: a program of one line without an expansion.
-/

namespace RiscvAssembler

open Text

/-- The text is a line of its own that has no label and no comment. -/
structure Unlabelled (line : String) : Prop where
  ne_nil : line.toList ≠ []
  inline : Inline line.toList
  leadingLabel? : leadingLabel? (tokenize line) = none

/-- The line has no label and stands for the given base instructions. -/
structure StandsFor (line : String) (instructions : List (List String)) : Prop
    extends Unlabelled line where
  expandLine : expandLine line = .ok instructions

section

variable {ls : List String} {expansions : List (List (List String))}

theorem unlabelled_of_forall₂ (h : List.Forall₂ StandsFor ls expansions) :
    ∀ line ∈ ls, Unlabelled line := by
  induction h with
  | nil => exact fun _ hline => absurd hline List.not_mem_nil
  | cons hline _ ih => exact List.forall_mem_cons.mpr ⟨hline.toUnlabelled, ih⟩

theorem labelTable_of_unlabelled (h : ∀ line ∈ ls, Unlabelled line) : labelTable ls = [] := by
  induction ls with
  | nil => rfl
  | cons line rest ih =>
    obtain ⟨hline, hrest⟩ := List.forall_mem_cons.mp h
    rw [labelTable_cons, hline.leadingLabel?, ih hrest]
    rfl

/-- Lines without labels all have a meaning if they have expansions. -/
theorem declares_of_forall₂ (h : List.Forall₂ StandsFor ls expansions) : Declares ls := by
  refine ⟨?_, ?_⟩
  · induction h with
    | nil => exact fun _ hline => absurd hline List.not_mem_nil
    | cons hline _ ih => exact List.forall_mem_cons.mpr ⟨⟨_, hline.expandLine⟩, ih⟩
  · rw [labelTable_of_unlabelled (unlabelled_of_forall₂ h)]
    exact List.nodup_nil

theorem flatMap_lineInstructions (h : List.Forall₂ StandsFor ls expansions) :
    ls.flatMap lineInstructions = expansions.flatten := by
  induction h with
  | nil => rfl
  | cons hline _ ih =>
    rw [List.flatMap_cons, List.flatten_cons, ih,
      lineInstructions_of_eq_ok (expandLine_eq_ok.mp hline.expandLine).2]

/-- **The words of a program without labels** are those of its instructions, wherever they stand. -/
theorem Session.assemble_unlines {s : Session} (h : List.Forall₂ StandsFor ls expansions)
    {words : List Int}
    (hwords : List.Forall₂ (fun tokens w => ∀ pc, assembleInstruction s.table [] pc tokens = .ok w)
      expansions.flatten words) :
    (s.assemble (unlines ls)).result = .ok words := by
  have hunlabelled := unlabelled_of_forall₂ h
  have hlines : lines (unlines ls) = ls :=
    lines_unlines (fun line hline => (hunlabelled line hline).ne_nil)
      fun line hline => (hunlabelled line hline).inline.newline_notMem
  rw [assemble_eq_ok, hlines, labelTable_of_unlabelled hunlabelled]
  refine ⟨declares_of_forall₂ h, ?_⟩
  -- the instructions of the expansions are those of the layout, where each has an address
  rw [← flatMap_lineInstructions h, ← map_tokens_placements, List.forall₂_map_left_iff] at hwords
  rw [eq_comm, ← List.forall₂_eq_eq_eq, List.forall₂_map_left_iff, List.forall₂_map_right_iff]
  exact hwords.imp fun p w hw => hw p.address

end

/-! ### Programs of one line -/

section

variable {line : String}

theorem Unlabelled.lines_eq (h : Unlabelled line) : lines line = [line] :=
  h.inline.lines_eq h.ne_nil

/-- A program of one line has the words of the instructions that the line stands for. -/
theorem StandsFor.assemble_eq_ok {instructions : List (List String)}
    (h : StandsFor line instructions) {s : Session} {words : List Int}
    (hwords : List.Forall₂ (fun tokens w => ∀ pc, assembleInstruction s.table [] pc tokens = .ok w)
      instructions words) :
    (s.assemble line).result = .ok words := by
  rw [← List.flatten_singleton (l := instructions)] at hwords
  have hassemble := Session.assemble_unlines (.cons h .nil) hwords
  rwa [unlines, String.intercalate_singleton] at hassemble

/-- **A program of one instruction** is assembled as the instruction is. -/
theorem StandsFor.assemble_eq {tokens : List String} (h : StandsFor line [tokens]) (s : Session) :
    (s.assemble line).result
      = ((assembleInstruction s.table [] 0 tokens).map fun w => [w]).mapError
          (locateFailure 1 line) := by
  have hcollect : (collect [line]).outcome = .ok [] := by
    rw [collect, Collection.outcome_after, collectFrom, h.leadingLabel?, declareLabel, h.expandLine]
    rfl
  rw [Session.assemble, h.lines_eq, hcollect]
  dsimp only
  rw [emit, emitFrom, emitLine, h.expandLine]
  dsimp only
  rw [emitInstructions]
  cases assembleInstruction s.table [] 0 tokens with
  | ok w => rfl
  | error failure => rfl

/-- A program of one line that cannot be expanded is refused for that. -/
theorem Unlabelled.assemble_eq_error (h : Unlabelled line) {fault : Fault}
    (hfault : expandLine line = .error fault) (s : Session) :
    (s.assemble line).result
      = .error (.fault ((Report.ofFault fault).locate (some 1) (some line))) := by
  have hcollect : (collect [line]).outcome
      = .error ((Report.ofFault fault).locate (some 1) (some line)) := by
    rw [collect, Collection.outcome_after, collectFrom, h.leadingLabel?, declareLabel, hfault]
    rfl
  rw [Session.assemble, h.lines_eq, hcollect]

end

end RiscvAssembler
