import Mathlib
import RiscvAssembler.Proofs.Program.Instruction

/-!
# Operands and the fields they fill

Where the operands of an instruction stand depends on its opcode, and what its word has room for on
its format. For most opcodes the operands are those of the format. The opcodes of loads, stores,
branches and register jumps fix operands of their own, and a table may give such an opcode any
format. Then an operand may be read that no field holds, and a field may be left that no operand
fills.

## Main definitions

* `Role`: what an operand is to an instruction.
* `Decoded.HasOperands`: a decoded word has the operands that were written, and no others.
* `Instruction.StoresOperands`: the opcode fixes operands that the format has fields for.

## Main results

* `Instruction.isSome_position`: the roles that have operands, from the opcode.
* `InstructionTable.Accepted.exists_assembled`: every instruction of a table can be assembled.
* `InstructionTable.Accepted.keepsOperands_iff`: the instructions whose words have their operands.
-/

namespace RiscvAssembler

open Text

/-! ### Roles -/

/-- What an operand is to an instruction. -/
inductive Role
  | rd
  | rs1
  | rs2
  | imm
  deriving DecidableEq, Repr

/-- The position of the operand in a role. -/
def OperandLayout.position (l : OperandLayout) : Role → Option Nat
  | .rd => l.rd
  | .rs1 => l.rs1
  | .rs2 => l.rs2
  | .imm => l.imm

theorem OperandLayout.mem_positions {l : OperandLayout} {role : Role} {n : Nat}
    (h : l.position role = some n) : n ∈ l.positions := by
  refine List.mem_filterMap.mpr ⟨_, ?_, h⟩
  cases role <;> simp

/-- The words of the format have a field for the role. -/
def Format.stores (f : Format) : Role → Bool
  | .rd => f.hasRd
  | .rs1 => f.hasRs1
  | .rs2 => f.hasRs2
  | .imm => f != .R

/-- The field of a role. -/
def Fields.value? (f : Fields) : Role → Option Int
  | .rd => f.rd?
  | .rs1 => f.rs1?
  | .rs2 => f.rs2?
  | .imm => f.imm?

/-- The operand in a role. -/
def Operands.value (o : Operands) : Role → Int
  | .rd => o.rd
  | .rs1 => o.rs1
  | .rs2 => o.rs2
  | .imm => o.imm

/-- The value of a token as the operand in a role. -/
def Role.resolve (role : Role) (labels : SymbolTable) (pc : Int) (f : Format) (token : String) :
    Except Fault Int :=
  match role with
  | .imm => resolveImmediate token labels pc f
  | .rd | .rs1 | .rs2 => Register.resolve token

@[simp] theorem Fields.isSome_value? (f : Fields) (role : Role) :
    (f.value? role).isSome = f.format.stores role := by
  cases role <;> cases f <;> rfl

/-- The operands of an instruction are read role by role. -/
theorem operandValues_eq_ok_iff {l : OperandLayout} {tokens : List String} {labels : SymbolTable}
    {pc : Int} {f : Format} {o : Operands} :
    operandValues l tokens labels pc f = .ok o ↔
      ∀ role, operandAt tokens (l.position role) (role.resolve labels pc f)
        = .ok (o.value role) := by
  rw [operandValues_eq_ok]
  constructor
  · rintro ⟨hrd, hrs1, hrs2, himm⟩ role
    cases role with
    | rd => exact hrd
    | rs1 => exact hrs1
    | rs2 => exact hrs2
    | imm => exact himm
  · intro h
    exact ⟨h .rd, h .rs1, h .rs2, h .imm⟩

/-! ### Values in fields -/

namespace Instruction

/-- The number in the field of an immediate shows the immediate. A shift amount has the low five
bits of its field, and an upper immediate is found without its sign. -/
def ShowsImmediate (i : Instruction) (imm n : Int) : Prop :=
  match i.format, i.funct7 with
  | .I, some _ => slice 0 5 n = imm
  | .U, _ => n = imm % 0x100000
  | _, _ => n = imm

/-- The field of a role is there and shows the operand. -/
def Recovers (i : Instruction) (role : Role) (value : Int) (found : Option Int) : Prop :=
  ∃ n ∈ found, if role = .imm then i.ShowsImmediate value n else n = value

theorem exists_showsImmediate {i : Instruction} {imm : Int} {found : Option Int}
    (hf : i.format ≠ .R) (h : i.CarriesImmediate imm found) :
    ∃ n ∈ found, i.ShowsImmediate imm n := by
  rw [CarriesImmediate] at h
  unfold ShowsImmediate
  cases hformat : i.format <;> cases hfunct7 : i.funct7 <;> rw [hformat, hfunct7] at h
  case R.none | R.some => exact absurd hformat hf
  case I.some =>
    obtain ⟨n, hn, hslice, -⟩ := h
    exact ⟨n, hn, hslice⟩
  all_goals exact ⟨_, h, rfl⟩

end Instruction

namespace Decoded.Carries

variable {d : Decoded} {i : Instruction} {o : Operands} {role : Role}

theorem value?_of_ne (h : d.Carries i o) (hrole : i.format.stores role = true)
    (hne : role ≠ .imm) : d.fields.value? role = some (o.value role) := by
  cases role with
  | rd => exact h.rd.trans (if_pos hrole)
  | rs1 => exact h.rs1.trans (if_pos hrole)
  | rs2 => exact h.rs2.trans (if_pos hrole)
  | imm => exact absurd rfl hne

/-- **A word has the operands of its instruction**, in the roles that its format stores. -/
theorem recovers (h : d.Carries i o) (hrole : i.format.stores role = true) :
    i.Recovers role (o.value role) (d.fields.value? role) := by
  by_cases hne : role = .imm
  · subst hne
    have hf : i.format ≠ .R := bne_iff_ne.mp hrole
    obtain ⟨n, hn, hshows⟩ := Instruction.exists_showsImmediate hf h.imm
    exact ⟨n, hn, hshows⟩
  · exact ⟨o.value role, h.value?_of_ne hrole hne, by rw [if_neg hne]⟩

end Decoded.Carries

/-! ### Operands of opcodes -/

namespace Format

theorem eq_I_of_hasRs {f : Format} (h₁ : f.hasRs1 = true) (h₂ : f.hasRs2 = false) : f = .I := by
  revert h₁ h₂
  cases f <;> decide

theorem eq_of_hasRd {f : Format} (h : f.hasRd = false) : f = .S ∨ f = .B := by
  revert h
  cases f <;> decide

end Format

namespace Instruction

/-- **The opcode decides which roles have operands.** -/
theorem isSome_position (i : Instruction) (tokens : List String) (role : Role) :
    ((i.layout tokens).position role).isSome = i.operandFormat.stores role := by
  rcases i.layout_cases tokens with h | ⟨h, hf⟩
  · rw [h]
    cases i.operandFormat <;> cases role <;> rfl
  · rw [h, hf]
    cases role <;> rfl

/-- The opcode fixes operands that the format has fields for. -/
structure StoresOperands (i : Instruction) : Prop where
  load : i.opcode = Opcode.load ∨ i.opcode = Opcode.jumpRegister → i.format = .I
  store : i.opcode = Opcode.store ∨ i.opcode = Opcode.branch → i.format = .S ∨ i.format = .B

instance (i : Instruction) : Decidable i.StoresOperands :=
  decidable_of_iff
    ((i.opcode = Opcode.load ∨ i.opcode = Opcode.jumpRegister → i.format = .I) ∧
      (i.opcode = Opcode.store ∨ i.opcode = Opcode.branch → i.format = .S ∨ i.format = .B))
    ⟨fun ⟨h₁, h₂⟩ => ⟨h₁, h₂⟩, fun ⟨h₁, h₂⟩ => ⟨h₁, h₂⟩⟩

theorem operandFormat_of_load {i : Instruction}
    (h : i.opcode = Opcode.load ∨ i.opcode = Opcode.jumpRegister) : i.operandFormat = .I :=
  if_pos h

/-- Stores and branches have two source registers and an immediate. -/
theorem stores_operandFormat_of_store {i : Instruction}
    (h : i.opcode = Opcode.store ∨ i.opcode = Opcode.branch) (role : Role) :
    i.operandFormat.stores role = Format.B.stores role := by
  rw [operandFormat]
  rcases h with h | h <;> rw [h] <;> cases role <;> rfl

theorem operandFormat_eq_format {i : Instruction}
    (hload : ¬ (i.opcode = Opcode.load ∨ i.opcode = Opcode.jumpRegister))
    (hstore : ¬ (i.opcode = Opcode.store ∨ i.opcode = Opcode.branch)) :
    i.operandFormat = i.format := by
  rw [not_or] at hstore
  rw [operandFormat, if_neg hload, if_neg hstore.1, if_neg hstore.2]

/-- An opcode that fixes operands fixes those of the format exactly if it fixes them in the roles
that the format stores. -/
theorem storesOperands_iff {i : Instruction} :
    i.StoresOperands ↔ ∀ role, i.operandFormat.stores role = i.format.stores role := by
  constructor
  · rintro ⟨hload, hstore⟩ role
    by_cases h : i.opcode = Opcode.load ∨ i.opcode = Opcode.jumpRegister
    · rw [operandFormat_of_load h, hload h]
    · by_cases h' : i.opcode = Opcode.store ∨ i.opcode = Opcode.branch
      · rw [stores_operandFormat_of_store h']
        rcases hstore h' with hf | hf <;> rw [hf]
        cases role <;> rfl
      · rw [operandFormat_eq_format h h']
  · intro h
    refine ⟨fun hload => ?_, fun hstore => ?_⟩
    · rw [operandFormat_of_load hload] at h
      exact Format.eq_I_of_hasRs (h .rs1).symm (h .rs2).symm
    · have hrd := h .rd
      rw [stores_operandFormat_of_store hstore] at hrd
      exact Format.eq_of_hasRd hrd.symm

end Instruction

/-! ### Assembling any instruction -/

/-- Operands for a layout that every instruction has room for: the zero register, and zero. -/
def OperandLayout.zeros (l : OperandLayout) : List String :=
  (List.range l.operandCount).map fun n => if l.imm = some (n + 1) then "0" else "x0"

/-- The token that stands in every place of a role. -/
def Role.zero : Role → String
  | .imm => "0"
  | .rd | .rs1 | .rs2 => "x0"

theorem Role.resolve_zero (role : Role) (f : Format) : role.resolve [] 0 f role.zero = .ok 0 := by
  have hregister : Register.resolve "x0" = .ok 0 := by decide
  cases role with
  | imm => exact resolveImmediate_decimal 0 [] 0 f
  | rd | rs1 | rs2 => exact hregister

theorem OperandLayout.getD_zeros_ofFormat (m : String) (f : Format) {role : Role} {n : Nat}
    (h : (ofFormat f).position role = some n) :
    (m :: (ofFormat f).zeros).getD n "" = role.zero := by
  cases f <;> cases role <;> cases h <;> rfl

theorem OperandLayout.getD_zeros_memory (m : String) {role : Role} {n : Nat}
    (h : memory.position role = some n) : (m :: memory.zeros).getD n "" = role.zero := by
  cases role <;> cases h <;> rfl

namespace Instruction

variable (i : Instruction) (m : String)

theorem layout_zeros : i.layout (m :: (i.layout []).zeros) = i.layout [] := by
  rw [layout, layout, OperandLayout.ofTokens, OperandLayout.ofTokens]
  by_cases hjump : i.opcode = Opcode.jumpRegister
  · have hvalid : Register.isValid "x0" = true := by decide
    rw [if_pos hjump, if_pos hjump]
    exact if_pos hvalid
  · rw [if_neg hjump, if_neg hjump]

theorem length_zeros : (m :: (i.layout []).zeros).length = (i.layout []).operandCount + 1 := by
  simp [OperandLayout.zeros]

theorem readOperands_zeros : readOperands i (m :: (i.layout []).zeros) [] 0 = .ok {} := by
  refine readOperands_eq_ok.mpr ?_
  rw [i.layout_zeros m]
  refine ⟨i.length_zeros m, operandValues_eq_ok_iff.mpr fun role => ?_⟩
  have hzero : Operands.value {} role = 0 := by cases role <;> rfl
  rw [hzero]
  cases hposition : (i.layout []).position role with
  | none => rfl
  | some n =>
    have htoken : (m :: (i.layout []).zeros).getD n "" = role.zero := by
      rcases i.layout_cases [] with hl | ⟨hl, -⟩ <;> rw [hl] at hposition ⊢
      · exact OperandLayout.getD_zeros_ofFormat m _ hposition
      · exact OperandLayout.getD_zeros_memory m hposition
    rw [operandAt, htoken]
    exact role.resolve_zero i.format

theorem acceptsImmediate_zero : i.AcceptsImmediate 0 := by
  rw [AcceptsImmediate]
  cases i.format <;> dsimp only
  case I => split <;> decide
  all_goals decide

end Instruction

/-! ### Which words have their operands -/

/-- The decoded word has the operands of an instruction with the given tokens: every operand is
found in the field of its role, and every field of a role has an operand. -/
structure Decoded.HasOperands (d : Decoded) (i : Instruction) (tokens : List String)
    (labels : SymbolTable) (pc : Int) : Prop where
  recovered : ∀ role n, (i.layout tokens).position role = some n →
    ∃ value, role.resolve labels pc i.format (tokens.getD n "") = .ok value ∧
      i.Recovers role value (d.fields.value? role)
  filled : ∀ role, i.format.stores role = true →
    ∃ n, (i.layout tokens).position role = some n ∧ 0 < n ∧ n < tokens.length

namespace InstructionTable

/-- Whenever the instruction is assembled, its word has its operands. -/
def KeepsOperands (t : InstructionTable) (i : Instruction) : Prop :=
  ∀ labels pc tokens w, t.find? (tokens.headD "") = some i →
    assembleInstruction t labels pc tokens = .ok w →
      ∃ d, t.decode w = .ok d ∧ d.HasOperands i tokens labels pc

variable {t : InstructionTable} {m : String} {i : Instruction}

/-- **Every instruction of a table can be assembled.** -/
theorem Accepted.exists_assembled (ht : t.Accepted) (hi : (m, i) ∈ t.instructions) :
    ∃ w, assembleInstruction t [] 0 (m :: (i.layout []).zeros) = .ok w := by
  have hwell := ht.wellFormed _ hi
  have hfind : t.find? m = some i := ht.find?_of_mem hi
  refine ⟨_, assembleInstruction_eq_ok.mpr ⟨List.cons_ne_nil _ _, i, hfind, {},
    i.readOperands_zeros m, hwell.encode_eq_ok.mpr ⟨i.acceptsImmediate_zero, rfl⟩⟩⟩

/-- The word of an assembled instruction carries the operands that were read. -/
theorem Accepted.exists_carries (ht : t.Accepted) {labels : SymbolTable} {pc w : Int}
    {tokens : List String} (hi : t.find? (tokens.headD "") = some i)
    (hw : assembleInstruction t labels pc tokens = .ok w) :
    ∃ d o, t.decode w = .ok d ∧ d.Carries i o ∧ readOperands i tokens labels pc = .ok o := by
  obtain ⟨-, j, hj, o, ho, hencode⟩ := assembleInstruction_eq_ok.mp hw
  obtain rfl : i = j := Option.some.inj (hi.symm.trans hj)
  have hmem := mem_of_find? hi
  have hwell := ht.wellFormed _ hmem
  have hcarries := hwell.carries (nameRegisters_of_readOperands ho)
    (hwell.encode_eq_ok.mp hencode).1 w
  exact ⟨_, o, ht.decode_of_encode hmem hencode, hcarries, ho⟩

/-- **The words of an instruction have its operands** exactly if its opcode fixes none that its
format has no fields for. -/
theorem Accepted.keepsOperands_iff (ht : t.Accepted) (hi : (m, i) ∈ t.instructions) :
    t.KeepsOperands i ↔ i.StoresOperands := by
  rw [Instruction.storesOperands_iff]
  have hfind : t.find? m = some i := ht.find?_of_mem hi
  constructor
  · intro h role
    -- one word is enough, since its fields are there whatever the operands are
    obtain ⟨w, hw⟩ := ht.exists_assembled hi
    obtain ⟨d, hd, hoperands⟩ := h [] 0 (m :: (i.layout []).zeros) w hfind hw
    have hhead : t.find? ((m :: (i.layout []).zeros).headD "") = some i := hfind
    obtain ⟨d', o, hd', hcarries, -⟩ := ht.exists_carries hhead hw
    obtain rfl : d = d' := Except.ok.inj (hd.symm.trans hd')
    rw [← i.isSome_position (m :: (i.layout []).zeros), Bool.eq_iff_iff]
    constructor
    · intro hposition
      obtain ⟨n, hn⟩ := Option.isSome_iff_exists.mp hposition
      obtain ⟨value, -, k, hk, -⟩ := hoperands.recovered role n hn
      rw [← hcarries.format, ← Fields.isSome_value?, Option.mem_def.mp hk]
      rfl
    · intro hstores
      obtain ⟨n, hn, -⟩ := hoperands.filled role hstores
      rw [hn]
      rfl
  · intro h labels pc tokens w hfind hw
    obtain ⟨d, o, hd, hcarries, ho⟩ := ht.exists_carries hfind hw
    obtain ⟨hlength, hvalues⟩ := readOperands_eq_ok.mp ho
    refine ⟨d, hd, fun role n hn => ?_, fun role hstores => ?_⟩
    · have hrole : i.format.stores role = true := by
        rw [← h role, ← i.isSome_position tokens, hn]
        rfl
      have hvalue := operandValues_eq_ok_iff.mp hvalues role
      rw [hn, operandAt] at hvalue
      exact ⟨o.value role, hvalue, hcarries.recovers hrole⟩
    · rw [← h role, ← i.isSome_position tokens] at hstores
      obtain ⟨n, hn⟩ := Option.isSome_iff_exists.mp hstores
      have hbounds := i.bounds_of_mem_positions tokens n (OperandLayout.mem_positions hn)
      exact ⟨n, hn, hbounds.1, by omega⟩

/-- A store of RV32I, whose operands are all in its words. -/
theorem keepsOperands_store :
    rv32i.Accepted ∧ ("sw", storeOperation 2) ∈ rv32i.instructions ∧
      rv32i.find? "sw" = some (storeOperation 2) ∧
      assembleInstruction rv32i [("here", 8)] 4 ["sw", "a0", "-4", "sp"] = .ok 0xFEA12E23 ∧
      ∃ d, rv32i.decode 0xFEA12E23 = .ok d ∧
        d.HasOperands (storeOperation 2) ["sw", "a0", "-4", "sp"] [("here", 8)] 4 := by
  have hi : ("sw", storeOperation 2) ∈ rv32i.instructions := List.mem_of_getElem? (i := 26) rfl
  have hfind : rv32i.find? "sw" = some (storeOperation 2) := Accepted.builtIn.find?_of_mem hi
  have hw :
      assembleInstruction rv32i [("here", 8)] 4 ["sw", "a0", "-4", "sp"] = .ok 0xFEA12E23 := by
    decide +kernel
  have hkeeps := (Accepted.builtIn.keepsOperands_iff hi).mpr (by decide)
  exact ⟨.builtIn, hi, hfind, hw, hkeeps _ _ _ _ hfind hw⟩

/-- A table that gives the opcode of branches the format of upper immediates. -/
def crossed : InstructionTable where
  name := "custom"
  formats := [(Opcode.branch, .U)]
  instructions := [("bu", ⟨Opcode.branch, .U, none, none⟩)]
  lookup_opcode := by decide

/-- A text that describes `crossed`. -/
def crossedText : String :=
  "\x7bformats: \x7b99: U\x7d, instructions: \x7bbu: \x7bopcode: 99\x7d\x7d\x7d"

set_option maxRecDepth 10000 in
theorem ofText_crossedText : ofText crossedText = .ok crossed := by
  cbv

/-- Two registers are read and dropped, and the field of a third is left without an operand. -/
theorem not_keepsOperands_crossed :
    crossed.Accepted ∧ ("bu", ⟨Opcode.branch, .U, none, none⟩) ∈ crossed.instructions ∧
      assembleInstruction crossed [] 0 ["bu", "a0", "a1", "8"] = .ok 0x8063 ∧
      crossed.decode 0x8063 = .ok ⟨0x8063, Opcode.branch, .U 0 8⟩ ∧
      ¬ crossed.KeepsOperands ⟨Opcode.branch, .U, none, none⟩ := by
  have ht : crossed.Accepted := .loaded ofText_crossedText
  have hi : ("bu", ⟨Opcode.branch, .U, none, none⟩) ∈ crossed.instructions :=
    List.mem_singleton.mpr rfl
  have hw : assembleInstruction crossed [] 0 ["bu", "a0", "a1", "8"] = .ok 0x8063 := by
    decide +kernel
  refine ⟨ht, hi, hw, by decide, fun h => ?_⟩
  obtain ⟨d, -, hoperands⟩ := h [] 0 ["bu", "a0", "a1", "8"] _ (ht.find?_of_mem hi) hw
  obtain ⟨n, hn, -⟩ := hoperands.filled .rd rfl
  have hnone : OperandLayout.position (.ofFormat .B) .rd = none := rfl
  cases hnone.symm.trans hn

end InstructionTable

end RiscvAssembler
