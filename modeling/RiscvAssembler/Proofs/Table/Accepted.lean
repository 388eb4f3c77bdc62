import RiscvAssembler.Proofs.Table.Reading
import RiscvAssembler.Table.Rv32i

/-!
# Tables that programs are assembled against

A program is assembled against the built-in table or against one that was read from a text. The
reader checks the constants of every instruction, so the instructions of both kinds of tables have
all the constants that their words store, each within its field. The mnemonics of both kinds are in
lower case and distinct, so that each of them is found.

## Main results

* `InstructionTable.Accepted.wellFormed`: the constants of every instruction of an accepted table
  fit its word.
* `InstructionTable.Accepted.find?_of_mem`: every instruction of an accepted table is found under
  its mnemonic.
-/

namespace RiscvAssembler

namespace InstructionTable

open Text
open Yaml (Value)

/-- The tables that programs are assembled against. -/
inductive Accepted : InstructionTable → Prop
  | builtIn : Accepted rv32i
  | loaded {text : String} {t : InstructionTable} (h : ofText text = .ok t) : Accepted t

theorem wellFormed_rv32i : ∀ p ∈ rv32iInstructions, p.2.WellFormed := by
  decide

/-- A table that is made from lists keeps the instructions under their mnemonics in lower case. -/
theorem instructions_of_ofLists {name : String} {formats : List (Int × Format)}
    {instructions : List (String × Instruction)} {t : InstructionTable}
    (h : ofLists name formats instructions = .ok t) :
    t.instructions = Dictionary.ofList
      ((Dictionary.ofList instructions).map fun p => (lowercase p.1, p.2)) := by
  rw [ofLists] at h
  split at h
  · cases h
  · cases h
    rfl

/-- A table holds the instructions it was made from, and no others. -/
theorem exists_mem_of_mem_ofLists {name : String} {formats : List (Int × Format)}
    {instructions : List (String × Instruction)} {t : InstructionTable}
    (h : ofLists name formats instructions = .ok t) {p : String × Instruction}
    (hp : p ∈ t.instructions) : ∃ q ∈ instructions, q.2 = p.2 := by
  rw [instructions_of_ofLists h] at hp
  have hlower := Dictionary.mem_values_of_mem_ofList hp
  simp only [List.map_map, List.mem_map, Function.comp_apply] at hlower
  obtain ⟨q, hq, hqp⟩ := hlower
  have hlist := Dictionary.mem_values_of_mem_ofList hq
  simpa [hqp] using hlist

/-- A text that describes a table has a value that describes it. -/
theorem exists_ofYaml_of_ofText {text : String} {t : InstructionTable} (h : ofText text = .ok t) :
    ∃ v, ofYaml v = .ok t := by
  rw [ofText] at h
  split at h
  · exact ⟨_, h⟩
  · cases h
  · cases h

/-- **The reader checks every constant.** -/
theorem Accepted.wellFormed {t : InstructionTable} (ht : t.Accepted) :
    ∀ p ∈ t.instructions, p.2.WellFormed := by
  cases ht with
  | builtIn => exact wellFormed_rv32i
  | loaded h =>
    obtain ⟨v, hv⟩ := exists_ofYaml_of_ofText h
    obtain ⟨_, _, _, _, -, hdescribes, hlists⟩ := ofYaml_eq_ok.mp hv
    intro p hp
    obtain ⟨q, hq, hqp⟩ := exists_mem_of_mem_ofLists hlists hp
    exact hqp ▸ hdescribes.wellFormed q hq

/-! ### Mnemonics -/

/-- The mnemonics of the table are in lower case and distinct. -/
structure NamesApart (t : InstructionTable) : Prop where
  lowercase : ∀ m ∈ t.mnemonics, lowercase m = m
  nodup : t.mnemonics.Nodup

instance (t : InstructionTable) : Decidable t.NamesApart :=
  decidable_of_iff ((∀ m ∈ t.mnemonics, Text.lowercase m = m) ∧ t.mnemonics.Nodup)
    ⟨fun ⟨h₁, h₂⟩ => ⟨h₁, h₂⟩, fun ⟨h₁, h₂⟩ => ⟨h₁, h₂⟩⟩

theorem namesApart_rv32i : rv32i.NamesApart := by
  decide +kernel

/-- Two mnemonics that differ in case only have become one, so those left are distinct. -/
theorem namesApart_of_ofLists {name : String} {formats : List (Int × Format)}
    {instructions : List (String × Instruction)} {t : InstructionTable}
    (h : ofLists name formats instructions = .ok t) : t.NamesApart := by
  have hkeys := instructions_of_ofLists h
  refine ⟨fun m hm => ?_, ?_⟩
  · rw [mnemonics, hkeys] at hm
    have hlower := Dictionary.mem_keys_of_mem_ofList hm
    rw [List.map_map] at hlower
    obtain ⟨p, -, rfl⟩ := List.mem_map.mp hlower
    exact lowercase_lowercase p.1
  · rw [mnemonics, hkeys]
    exact Dictionary.nodup_ofList _

theorem Accepted.namesApart {t : InstructionTable} (ht : t.Accepted) : t.NamesApart := by
  cases ht with
  | builtIn => exact namesApart_rv32i
  | loaded h =>
    obtain ⟨v, hv⟩ := exists_ofYaml_of_ofText h
    obtain ⟨_, _, _, _, -, -, hlists⟩ := ofYaml_eq_ok.mp hv
    exact namesApart_of_ofLists hlists

/-- **Every instruction is found under its mnemonic.** -/
theorem Accepted.find?_of_mem {t : InstructionTable} (ht : t.Accepted) {m : String}
    {i : Instruction} (h : (m, i) ∈ t.instructions) : t.find? m = some i := by
  obtain ⟨hlower, hnodup⟩ := ht.namesApart
  rw [find?, hlower m (List.mem_map_of_mem h)]
  exact Dictionary.lookup_of_mem hnodup h

end InstructionTable

end RiscvAssembler
