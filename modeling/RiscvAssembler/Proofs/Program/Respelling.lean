import RiscvAssembler.Proofs.Program.Desugaring
import RiscvAssembler.Proofs.Program.Operands
import RiscvAssembler.Proofs.Token.Replacement

/-!
# Other names for the same

Mnemonics and registers can be written in any letter case, and registers under several names. A
program has the same words and symbols whichever are written: the same pseudo-instructions are
recognised, operands stand in the same places, and the same registers are read. Labels are another
matter, as they are what is written; so an operand may have another name only where the base
instruction that it gets into reads a register.

## Main definitions

* `Register.IsName`: the names of a register.
* `ReadsRegister`: an operand is read as a register by a base instruction that the line stands for.
* `Respelled`, `RespelledRow`: tokens with other names for the same.
* `Reread`: base instructions that read the same.

## Main results

* `Reread.assembleInstruction_eq_ok`: they have the same word.
* `Respelled.exists_expand`: tokens that are respelled stand for such instructions.
* `Session.assemble_respelled`: a program that is respelled has the same words and symbols.
-/

namespace RiscvAssembler

open Text

/-! ### Names of registers -/

namespace Register

/-- The token is a name of register `n`, in any letter case. -/
def IsName (n : Nat) (token : String) : Prop :=
  (lowercase token, n) ∈ names

instance (n : Nat) (token : String) : Decidable (IsName n token) :=
  inferInstanceAs (Decidable ((lowercase token, n) ∈ names))

theorem nodup_names : (names.map Prod.fst).Nodup := by
  decide

/-- **A name is read as its register.** -/
theorem IsName.find?_eq {n : Nat} {token : String} (h : IsName n token) : find? token = some n := by
  have hblank : Unblanked (lowercase token) := (plain_of_mem_names _ h).2.isBlank_eq
  rw [find?, hblank.trim_eq]
  exact Dictionary.lookup_of_mem nodup_names h

theorem isValid_of_find? {token : String} {n : Nat} (h : find? token = some n) :
    isValid token = true := by
  rw [isValid, h]
  rfl

end Register

/-! ### Base instructions -/

/-- The base instruction reads the token at position `n` as a register. -/
def ReadsRegisterAt (base : List String) (n : Nat) : Prop :=
  ∃ i role, InstructionTable.rv32i.find? (base.headD "") = some i ∧ role ≠ Role.imm ∧
    (i.layout base).position role = some n

/-- The base instructions read the same: the mnemonics do not differ but in letter case, and tokens
do not differ but where both name the same register. -/
structure Reread (base base' : List String) : Prop where
  length : base'.length = base.length
  mnemonic : lowercase (base'.headD "") = lowercase (base.headD "")
  token : ∀ n, 0 < n → n < base.length → base'.getD n "" = base.getD n "" ∨
    ReadsRegisterAt base n ∧
      ∃ r, Register.find? (base.getD n "") = some r ∧ Register.find? (base'.getD n "") = some r

theorem Reread.refl (base : List String) : Reread base base :=
  ⟨rfl, rfl, fun _ _ _ => .inl rfl⟩

theorem InstructionTable.find?_congr {m m' : String} (h : lowercase m' = lowercase m)
    (t : InstructionTable) : t.find? m' = t.find? m := by
  rw [find?, find?, h]

/-- The layout looks at one token only, and only whether it is a register. -/
theorem Instruction.layout_congr (i : Instruction) {base base' : List String}
    (hlength : base'.length = base.length)
    (hvalid : 2 < base.length →
      Register.isValid (base'.getD 2 "") = Register.isValid (base.getD 2 "")) :
    i.layout base' = i.layout base := by
  by_cases hopcode : i.opcode = Opcode.jumpRegister
  · rw [layout, layout, OperandLayout.ofTokens, OperandLayout.ofTokens, if_pos hopcode,
      if_pos hopcode]
    by_cases hlt : 2 < base.length
    · have hlt' : 2 < base'.length := hlength ▸ hlt
      have h := hvalid hlt
      rw [List.getD_eq_getElem?_getD, List.getD_eq_getElem?_getD, List.getElem?_eq_getElem hlt,
        List.getElem?_eq_getElem hlt', Option.getD_some, Option.getD_some] at h
      rw [List.getElem?_eq_getElem hlt, List.getElem?_eq_getElem hlt']
      dsimp only
      rw [h]
    · rw [List.getElem?_eq_none (Nat.le_of_not_lt hlt),
        List.getElem?_eq_none (hlength ▸ Nat.le_of_not_lt hlt)]
  · exact i.layout_of_ne hopcode base' base

/-- No token is read as a register and as an immediate. -/
theorem Instruction.position_imm_ne (i : Instruction) (tokens : List String) {role : Role}
    (hrole : role ≠ .imm) {n : Nat} (h : (i.layout tokens).position role = some n) :
    (i.layout tokens).position .imm ≠ some n := by
  rcases i.layout_cases tokens with hl | ⟨hl, -⟩ <;> rw [hl] at h ⊢
  · revert h
    cases i.operandFormat <;> cases role <;> rintro ⟨⟩ <;>
      first | exact absurd rfl hrole | rintro ⟨⟩
  · cases role <;> cases h <;> first | exact absurd rfl hrole | rintro ⟨⟩

namespace Reread

variable {base base' : List String}

theorem isValid_eq (h : Reread base base') {n : Nat} (hpos : 0 < n) (hn : n < base.length) :
    Register.isValid (base'.getD n "") = Register.isValid (base.getD n "") := by
  rcases h.token n hpos hn with heq | ⟨-, r, hr, hr'⟩
  · rw [heq]
  · rw [Register.isValid_of_find? hr, Register.isValid_of_find? hr']

/-- **Instructions that read the same** have the same word. -/
theorem assembleInstruction_eq_ok (h : Reread base base') {labels : SymbolTable} {pc w : Int}
    (hw : assembleInstruction .rv32i labels pc base = .ok w) :
    assembleInstruction .rv32i labels pc base' = .ok w := by
  obtain ⟨hne, i, hi, o, ho, hencode⟩ := RiscvAssembler.assembleInstruction_eq_ok.mp hw
  obtain ⟨hlength, hvalues⟩ := readOperands_eq_ok.mp ho
  have hne' : base' ≠ [] := by
    intro hnil
    have hlength' := h.length
    rw [hnil] at hlength'
    exact hne (List.length_eq_zero_iff.mp hlength'.symm)
  have hlayout : i.layout base' = i.layout base :=
    i.layout_congr h.length fun hlt => h.isValid_eq (by decide) hlt
  have hvalues' : operandValues (i.layout base') base' labels pc i.format = .ok o := by
    rw [hlayout]
    refine operandValues_eq_ok_iff.mpr fun role => ?_
    have hvalue := operandValues_eq_ok_iff.mp hvalues role
    cases hposition : (i.layout base).position role with
    | none =>
      rw [hposition] at hvalue
      exact hvalue
    | some n =>
      rw [hposition, operandAt] at hvalue
      rw [operandAt]
      obtain ⟨hpos, hcount⟩ :=
        i.bounds_of_mem_positions base n (OperandLayout.mem_positions hposition)
      rcases h.token n hpos (by omega) with heq | ⟨⟨j, other, hj, hother, hat⟩, r, hr, hr'⟩
      · rw [heq]
        exact hvalue
      · -- a register stands here, so this is not the immediate
        obtain rfl : i = j := Option.some.inj (hi.symm.trans hj)
        have himm : role ≠ .imm := fun heq =>
          i.position_imm_ne base hother hat (heq ▸ hposition)
        have hresolve : ∀ token,
            role.resolve labels pc i.format token = Register.resolve token := by
          intro token
          cases role with
          | rd | rs1 | rs2 => rfl
          | imm => exact absurd rfl himm
        rw [hresolve] at hvalue ⊢
        obtain ⟨k, hk, hkr⟩ := Register.resolve_eq_ok.mp hvalue
        rw [hkr, ← Option.some.inj (hr.symm.trans hk)]
        exact Register.resolve_eq_ok.mpr ⟨r, hr', rfl⟩
  refine RiscvAssembler.assembleInstruction_eq_ok.mpr ⟨hne', i, ?_, o, ?_, hencode⟩
  · rw [InstructionTable.find?_congr h.mnemonic]
    exact hi
  · rw [readOperands_eq_ok, hlayout, h.length]
    exact ⟨hlength, hlayout ▸ hvalues'⟩

end Reread

/-! ### Instructions of lines -/

/-- Where the token at position `k` of a line without a label stands in the base instructions. The
constant that is loaded is not passed on. -/
def standsAt? (tokens : List String) (k : Nat) : Option Nat :=
  match Pseudo.ofTokens? tokens with
  | none => some k
  | some .loadImmediate => if k = 1 then some 1 else none
  | some (.template _ t) => (t.slots.idxOf? (.operand (k - 1))).map (· + 1)

/-- The token at position `k` of a line without a label is read as a register by a base instruction
that the line stands for. -/
def ReadsRegister (tokens : List String) (k : Nat) : Prop :=
  ∃ instructions base n, expand tokens = .ok instructions ∧ base ∈ instructions ∧
    standsAt? tokens k = some n ∧ ReadsRegisterAt base n

/-- The tokens, without a label, have been given other names for the same: the mnemonic is another
spelling with the same small letters, and an operand that is read as a register is any name of this
register. -/
structure Respelled (tokens tokens' : List String) : Prop where
  length : tokens'.length = tokens.length
  mnemonic : lowercase (tokens'.headD "") = lowercase (tokens.headD "")
  operand : ∀ k, 0 < k → k < tokens.length → tokens'.getD k "" = tokens.getD k "" ∨
    ReadsRegister tokens k ∧ ∃ n, Register.find? (tokens.getD k "") = some n ∧
      Register.IsName n (tokens'.getD k "")

/-- An operand of a template stands in one place of it. -/
theorem Pseudo.idxOf?_operand : ∀ p ∈ templates ++ shortForms, ∀ n < p.2.slots.length + 1,
    ∀ slot ∈ p.2.slot? n, slot.position?.isSome = true →
      p.2.slots.idxOf? slot = some (n - 1) := by
  decide

theorem expand_template {mnemonic name : String} {operands : List String} {t : Pseudo.Template}
    (hp : Pseudo.ofTokens? (mnemonic :: operands) = some (.template name t))
    (hlength : operands.length = t.arity) :
    expand (mnemonic :: operands) = .ok [t.fill operands] := by
  have hcount : Pseudo.checkCount name operands t.arity = .ok () := if_pos hlength
  rw [expand, hp]
  dsimp only [Pseudo.expand, List.tail_cons]
  rw [hcount]
  rfl

theorem expand_load {mnemonic rd operand : String}
    (hp : Pseudo.ofTokens? [mnemonic, rd, operand] = some .loadImmediate) :
    expand [mnemonic, rd, operand] = Pseudo.expandLoad rd operand := by
  have hcount : Pseudo.checkCount "li" [rd, operand] 2 = .ok () := if_pos rfl
  rw [expand, hp]
  simp only [Pseudo.expand, List.tail_cons, hcount, bind, Except.bind, List.getD_cons_zero,
    List.getD_cons_succ]

theorem readsRegisterAt_addi {rd rs imm : String} :
    ReadsRegisterAt ["addi", rd, rs, imm] 1 ∧ ReadsRegisterAt ["addi", rd, rs, imm] 2 :=
  ⟨⟨_, .rd, find?_addi, by decide, rfl⟩, ⟨_, .rs1, find?_addi, by decide, rfl⟩⟩

theorem readsRegisterAt_lui {rd imm : String} : ReadsRegisterAt ["lui", rd, imm] 1 :=
  ⟨_, .rd, find?_lui, by decide, rfl⟩

section

variable {rd rd' : String} {r : Nat} (hr : Register.find? rd = some r)
  (hr' : Register.find? rd' = some r)

include hr hr'

theorem reread_addi {rs rs' : String} (imm : String) (hrs : rs' = rs ∨ rs = rd ∧ rs' = rd') :
    Reread ["addi", rd, rs, imm] ["addi", rd', rs', imm] := by
  refine ⟨rfl, rfl, fun n hpos hn => ?_⟩
  have hcases : n = 1 ∨ n = 2 ∨ n = 3 := by
    simp only [List.length_cons, List.length_nil] at hn
    omega
  rcases hcases with rfl | rfl | rfl
  · exact .inr ⟨readsRegisterAt_addi.1, r, hr, hr'⟩
  · rcases hrs with rfl | ⟨rfl, rfl⟩
    · exact .inl rfl
    · exact .inr ⟨readsRegisterAt_addi.2, r, hr, hr'⟩
  · exact .inl rfl

theorem reread_lui (imm : String) : Reread ["lui", rd, imm] ["lui", rd', imm] := by
  refine ⟨rfl, rfl, fun n hpos hn => ?_⟩
  have hcases : n = 1 ∨ n = 2 := by
    simp only [List.length_cons, List.length_nil] at hn
    omega
  rcases hcases with rfl | rfl
  · exact .inr ⟨readsRegisterAt_lui, r, hr, hr'⟩
  · exact .inl rfl

theorem forall₂_loadConstant (value : Int) :
    List.Forall₂ Reread (Pseudo.loadConstant rd value) (Pseudo.loadConstant rd' value) := by
  rw [Pseudo.loadConstant, Pseudo.loadConstant]
  split
  · exact .cons (reread_addi hr hr' _ (.inl rfl)) .nil
  · refine .cons (reread_lui hr hr' _) ?_
    split
    · exact .nil
    · exact .cons (reread_addi hr hr' _ (.inr ⟨rfl, rfl⟩)) .nil

/-- **A constant is loaded alike** into a register under any name. -/
theorem exists_expandLoad {operand : String} {instructions : List (List String)}
    (h : Pseudo.expandLoad rd operand = .ok instructions) :
    ∃ instructions', Pseudo.expandLoad rd' operand = .ok instructions' ∧
      List.Forall₂ Reread instructions instructions' := by
  rw [Pseudo.expandLoad] at h ⊢
  split at h
  · rename_i hlabel
    cases h
    rw [if_pos hlabel]
    exact ⟨_, rfl, .cons (reread_addi hr hr' _ (.inl rfl)) .nil⟩
  · rename_i hlabel
    rw [if_neg hlabel]
    split at h
    · cases h
    · rename_i value hvalue
      split at h
      · rename_i hfits
        cases h
        rw [if_pos hfits]
        exact ⟨_, rfl, forall₂_loadConstant hr hr' value⟩
      · cases h

end

namespace Respelled

variable {tokens tokens' : List String}

/-- The same pseudo-instructions are recognised. -/
theorem ofTokens?_eq (h : Respelled tokens tokens') :
    Pseudo.ofTokens? tokens' = Pseudo.ofTokens? tokens := by
  have hlength := h.length
  have hmnemonic := h.mnemonic
  cases tokens with
  | nil =>
    rw [List.length_eq_zero_iff.mp hlength]
  | cons m operands =>
    obtain ⟨m', operands', rfl⟩ := List.exists_cons_of_length_eq_add_one hlength
    rw [List.headD_cons, List.headD_cons] at hmnemonic
    rw [Pseudo.ofTokens?, Pseudo.ofTokens?, hmnemonic, Nat.succ.inj hlength]

/-- A line that stands for itself. -/
theorem reread_self (h : Respelled tokens tokens') (hp : Pseudo.ofTokens? tokens = none) :
    Reread tokens tokens' := by
  refine ⟨h.length, h.mnemonic, fun n hpos hn => (h.operand n hpos hn).imp_right ?_⟩
  rintro ⟨⟨instructions, base, k, hexpand, hbase, hstands, hreads⟩, r, hr, hr'⟩
  rw [expand, hp] at hexpand
  cases hexpand
  rw [List.mem_singleton.mp hbase] at hreads
  rw [standsAt?, hp] at hstands
  cases hstands
  exact ⟨hreads, r, hr, hr'.find?_eq⟩

/-- A line with a pseudo-instruction that stands for one base instruction. -/
theorem reread_fill {mnemonic mnemonic' name : String} {operands operands' : List String}
    {t : Pseudo.Template} (h : Respelled (mnemonic :: operands) (mnemonic' :: operands'))
    (hp : Pseudo.ofTokens? (mnemonic :: operands) = some (.template name t))
    (hlength : operands.length = t.arity) :
    Reread (t.fill operands) (t.fill operands') := by
  have ht := Pseudo.mem_of_find? hp
  have hexpand := expand_template hp hlength
  refine ⟨by rw [Pseudo.Template.fill, Pseudo.Template.fill]; simp, rfl, fun n hpos hn => ?_⟩
  have hslots : n < t.slots.length + 1 := by
    rwa [Pseudo.Template.fill, List.length_cons, List.length_map] at hn
  obtain ⟨slot, hslot⟩ : ∃ slot, t.slot? n = some slot :=
    ⟨_, List.getElem?_eq_getElem (by rwa [List.length_cons])⟩
  rw [Pseudo.Template.getD_fill hslot, Pseudo.Template.getD_fill hslot]
  cases slot with
  | fixed text => exact .inl rfl
  | operand position =>
    have hindex := Pseudo.idxOf?_operand _ ht n hslots _ hslot rfl
    have hmem : .operand position ∈ t.slots := by
      rcases List.mem_cons.mp (List.mem_of_getElem? hslot) with heq | hmem
      · cases heq
      · exact hmem
    have hlt : position < operands.length := by
      rw [hlength]
      exact Pseudo.lt_arity _ ht position (List.mem_filterMap.mpr ⟨_, hmem, rfl⟩)
    refine (h.operand (position + 1) (Nat.succ_pos _) (Nat.succ_lt_succ hlt)).imp_right ?_
    rintro ⟨⟨instructions, base, k, hexpand', hbase, hstands, hreads⟩, r, hr, hr'⟩
    rw [Except.ok.inj (hexpand'.symm.trans hexpand), List.mem_singleton] at hbase
    rw [hbase] at hreads
    have hk : k = n := by
      rw [standsAt?, hp, Nat.add_sub_cancel] at hstands
      dsimp only at hstands
      rw [hindex] at hstands
      have hk : n - 1 + 1 = k := Option.some.inj hstands
      omega
    exact ⟨hk ▸ hreads, r, hr, hr'.find?_eq⟩

/-- A line that loads a constant. The constant is as it was. -/
theorem exists_expand_load {mnemonic mnemonic' rd rd' operand operand' : String}
    (h : Respelled [mnemonic, rd, operand] [mnemonic', rd', operand'])
    (hp : Pseudo.ofTokens? [mnemonic, rd, operand] = some .loadImmediate)
    {instructions : List (List String)}
    (hexpand : expand [mnemonic, rd, operand] = .ok instructions) :
    ∃ instructions', expand [mnemonic', rd', operand'] = .ok instructions' ∧
      List.Forall₂ Reread instructions instructions' := by
  obtain rfl : operand' = operand := by
    rcases h.operand 2 (by decide) (by simp) with heq | ⟨⟨_, _, _, -, -, hstands, -⟩, -⟩
    · exact heq
    · rw [standsAt?, hp] at hstands
      cases hstands
  rw [expand_load hp] at hexpand
  rw [expand_load (h.ofTokens?_eq.trans hp)]
  rcases h.operand 1 (by decide) (by simp) with heq | ⟨-, r, hr, hr'⟩
  · obtain rfl : rd' = rd := heq
    exact ⟨instructions, hexpand, List.forall₂_same.mpr fun base _ => .refl base⟩
  · exact exists_expandLoad hr hr'.find?_eq hexpand

/-- **Tokens that are respelled** stand for instructions that read the same. -/
theorem exists_expand (h : Respelled tokens tokens') {instructions : List (List String)}
    (hexpand : expand tokens = .ok instructions) :
    ∃ instructions', expand tokens' = .ok instructions' ∧
      List.Forall₂ Reread instructions instructions' := by
  have hlength := h.length
  have hp' := h.ofTokens?_eq
  cases hp : Pseudo.ofTokens? tokens with
  | none =>
    rw [expand, hp] at hexpand
    cases hexpand
    rw [expand, hp', hp]
    exact ⟨_, rfl, .cons (h.reread_self hp) .nil⟩
  | some p =>
    rw [hp] at hp'
    have hbind := hexpand
    rw [expand, hp] at hbind
    obtain ⟨mnemonic, operands, rfl⟩ : ∃ mnemonic operands, tokens = mnemonic :: operands := by
      cases tokens with
      | nil => cases hp
      | cons mnemonic operands => exact ⟨mnemonic, operands, rfl⟩
    obtain ⟨mnemonic', operands', rfl⟩ := List.exists_cons_of_length_eq_add_one hlength
    have hoperands : operands'.length = operands.length := Nat.succ.inj hlength
    cases p with
    | loadImmediate =>
      obtain ⟨_, hcount, -⟩ := bind_eq_ok.mp hbind
      have htwo : operands.length = 2 := Pseudo.length_of_checkCount hcount
      obtain ⟨rd, operand, rfl⟩ := List.length_eq_two.mp htwo
      obtain ⟨rd', operand', rfl⟩ := List.length_eq_two.mp (hoperands.trans htwo)
      exact h.exists_expand_load hp hexpand
    | template name t =>
      obtain ⟨_, hcount, hfill⟩ := bind_eq_ok.mp hbind
      cases hfill
      have hcount := Pseudo.length_of_checkCount hcount
      exact ⟨_, expand_template hp' (hoperands.trans hcount),
        .cons (h.reread_fill hp hcount) .nil⟩

end Respelled

/-! ### Lines -/

/-- The label of a line, if it has one, as it is written. -/
def labelPart (row : List String) : List String :=
  (row.head?.filter isLabel).toList

/-- The tokens of a line have been given other names for the same. The label is as it was. -/
def RespelledRow (row row' : List String) : Prop :=
  ∃ rest, row' = labelPart row ++ rest ∧ Respelled (stripLabel row) rest

theorem labelPart_append_stripLabel (row : List String) :
    labelPart row ++ stripLabel row = row := by
  cases row with
  | nil => rfl
  | cons token rest =>
    rw [labelPart, stripLabel, List.head?_cons, Option.filter_some]
    split <;> rfl

/-- The mnemonics of lines that are assembled, in small letters. -/
def knownMnemonics : List String :=
  Pseudo.names ++ Pseudo.shortForms.map Prod.fst ++
    InstructionTable.rv32iInstructions.map Prod.fst

theorem plain_of_mem_knownMnemonics : ∀ m ∈ knownMnemonics,
    m.toList ≠ [] ∧ Plain m.toList ∧ ':' ∉ m.toList := by
  decide

/-- The mnemonic of a line is known if the line is assembled. -/
theorem mem_knownMnemonics {tokens : List String} (hne : tokens ≠ [])
    {instructions : List (List String)} (hexpand : expand tokens = .ok instructions)
    (hwords : ∀ base ∈ instructions, ∃ labels pc w,
      assembleInstruction .rv32i labels pc base = .ok w) :
    lowercase (tokens.headD "") ∈ knownMnemonics := by
  obtain ⟨mnemonic, operands, rfl⟩ := List.exists_cons_of_ne_nil hne
  rw [List.headD_cons, knownMnemonics, List.mem_append, List.mem_append]
  cases hp : Pseudo.ofTokens? (mnemonic :: operands) with
  | none =>
    rw [expand, hp] at hexpand
    cases hexpand
    obtain ⟨labels, pc, w, hw⟩ := hwords _ (List.mem_singleton_self _)
    obtain ⟨-, i, hi, -⟩ := assembleInstruction_eq_ok.mp hw
    exact .inr (List.mem_map_of_mem (f := Prod.fst) (InstructionTable.mem_of_find? hi))
  | some p =>
    cases p with
    | loadImmediate =>
      rw [Pseudo.eq_of_find?_loadImmediate hp]
      exact .inl (.inl List.mem_cons_self)
    | template name t =>
      obtain ⟨rfl, hlong | hshort⟩ := Pseudo.mem_of_find?_template hp
      · exact .inl (.inl (List.mem_cons_of_mem _ (List.mem_map_of_mem (f := Prod.fst) hlong)))
      · exact .inl (.inr (List.mem_map_of_mem (f := Prod.fst) hshort))

/-- What may be written over the tokens is plain. -/
theorem Respelled.replaces {tokens tokens' : List String} (h : Respelled tokens tokens')
    (hknown : tokens ≠ [] → lowercase (tokens.headD "") ∈ knownMnemonics) :
    List.Forall₂ Replaces tokens tokens' := by
  refine List.forall₂_iff_get.mpr ⟨h.length.symm, fun n hn hn' => ?_⟩
  have hget : tokens.getD n "" = tokens.get ⟨n, hn⟩ := by
    rw [List.getD_eq_getElem?_getD, List.getElem?_eq_getElem hn]
    rfl
  have hget' : tokens'.getD n "" = tokens'.get ⟨n, hn'⟩ := by
    rw [List.getD_eq_getElem?_getD, List.getElem?_eq_getElem hn']
    rfl
  rw [← hget, ← hget']
  cases n with
  | zero =>
    have hne : tokens ≠ [] := List.ne_nil_of_length_pos hn
    have hhead : ∀ l : List String, l.getD 0 "" = l.headD "" := fun l => by cases l <;> rfl
    obtain ⟨hnil, hplain, -⟩ := plain_of_mem_knownMnemonics _ (hknown hne)
    rw [← h.mnemonic, ← hhead] at hnil hplain
    exact .inr ⟨ne_nil_of_lowercase hnil, plain_of_lowercase hplain⟩
  | succ n =>
    refine (h.operand (n + 1) (Nat.succ_pos n) hn).imp_right ?_
    rintro ⟨-, r, -, hname⟩
    obtain ⟨hnil, hplain⟩ := Register.plain_of_mem_names _ hname
    exact ⟨ne_nil_of_lowercase hnil, plain_of_lowercase hplain⟩

/-- **The tokens of a line that is respelled**: the label is the same, and the rest is respelled. -/
theorem RespelledRow.spec {row row' : List String} (h : RespelledRow row row')
    (hknown : stripLabel row ≠ [] → lowercase ((stripLabel row).headD "") ∈ knownMnemonics) :
    leadingLabel? row' = leadingLabel? row ∧ Respelled (stripLabel row) (stripLabel row') ∧
      List.Forall₂ Replaces row row' := by
  obtain ⟨rest, rfl, hrest⟩ := h
  have hreplaces := hrest.replaces hknown
  have hsplit : List.Forall₂ Replaces (labelPart row ++ stripLabel row) (labelPart row ++ rest) :=
    List.rel_append (List.forall₂_same.mpr fun _ _ => .inl rfl) hreplaces
  rw [labelPart_append_stripLabel] at hsplit
  suffices hboth : leadingLabel? (labelPart row ++ rest) = leadingLabel? row ∧
      stripLabel (labelPart row ++ rest) = rest by
    rw [hboth.2]
    exact ⟨hboth.1, hrest, hsplit⟩
  cases row with
  | nil =>
    rw [List.length_eq_zero_iff.mp hrest.length]
    exact ⟨rfl, rfl⟩
  | cons token tail =>
    rw [labelPart, List.head?_cons, Option.filter_some]
    cases hlabel : isLabel token with
    | true => simp [leadingLabel?, stripLabel, hlabel]
    | false =>
      rw [stripLabel, hlabel] at hrest hknown
      obtain ⟨m, operands, rfl⟩ := List.exists_cons_of_length_eq_add_one hrest.length
      have hmnemonic : lowercase m = lowercase token := hrest.mnemonic
      have hcolon : ':' ∉ (lowercase token).toList :=
        (plain_of_mem_knownMnemonics _ (hknown (List.cons_ne_nil _ _))).2.2
      have hm : isLabel m = false := isLabel_of_lowercase (hmnemonic ▸ hcolon)
      simp [leadingLabel?, stripLabel, hlabel, hm]

/-! ### Lines that read the same -/

/-- The line has the same label as the other one, and instructions that read the same. -/
structure RereadLine (line line' : String) : Prop where
  label : leadingLabel? (tokenize line') = leadingLabel? (tokenize line)
  expands : ∃ instructions, expandLine line' = .ok instructions
  instructions : List.Forall₂ Reread (lineInstructions line) (lineInstructions line')

/-- **A line that is respelled** reads the same. -/
theorem RereadLine.of_respelled {line line' : String} {instructions : List (List String)}
    (hexpand : expandLine line = .ok instructions)
    (hlabel : leadingLabel? (tokenize line') = leadingLabel? (tokenize line))
    (hrespelled : Respelled (stripLabel (tokenize line)) (stripLabel (tokenize line')))
    (hlength : (tokenize line').length = (tokenize line).length) : RereadLine line line' := by
  obtain ⟨hcount, hline⟩ := expandLine_eq_ok.mp hexpand
  have hline' : ∃ instructions', lineExpansion line' = .ok instructions' ∧
      List.Forall₂ Reread instructions instructions' := by
    have hrest := hrespelled.length
    rw [lineExpansion] at hline ⊢
    cases hstrip : stripLabel (tokenize line) with
    | nil =>
      rw [hstrip] at hline hrest
      cases hline
      rw [List.length_eq_zero_iff.mp hrest]
      exact ⟨[], rfl, .nil⟩
    | cons m operands =>
      rw [hstrip] at hline hrest hrespelled
      obtain ⟨m', operands', hstrip'⟩ := List.exists_cons_of_length_eq_add_one hrest
      rw [hstrip'] at hrespelled ⊢
      exact hrespelled.exists_expand hline
  obtain ⟨instructions', hok, hreread⟩ := hline'
  refine ⟨hlabel, ⟨instructions', expandLine_eq_ok.mpr ⟨hlength ▸ hcount, hok⟩⟩, ?_⟩
  rw [lineInstructions_of_eq_ok hline, lineInstructions_of_eq_ok hok]
  exact hreread

section

variable {ls ls' : List String} (h : List.Forall₂ RereadLine ls ls')

include h

/-- The instructions of lines that read the same stand in the same places, and so do the labels. -/
theorem layout_of_rereadLines :
    List.Forall₂ Reread (ls.flatMap lineInstructions) (ls'.flatMap lineInstructions) ∧
      labelTable ls' = labelTable ls ∧
        ∀ line ∈ ls', ∃ instructions, expandLine line = .ok instructions := by
  induction h with
  | nil => exact ⟨.nil, rfl, fun _ h => absurd h List.not_mem_nil⟩
  | cons hline _ ih =>
    obtain ⟨hinstructions, hlabels, hexpands⟩ := ih
    refine ⟨?_, ?_, List.forall_mem_cons.mpr ⟨hline.expands, hexpands⟩⟩
    · rw [List.flatMap_cons, List.flatMap_cons]
      exact List.rel_append hline.instructions hinstructions
    · rw [labelTable_cons, labelTable_cons, hline.label, hlabels, hline.instructions.length_eq]

end

/-- Instructions that read the same have the same words where they stand. -/
theorem map_ok_of_reread {labels : SymbolTable} {bases bases' : List (List String)}
    (h : List.Forall₂ Reread bases bases') {words : List Int} {start : Nat}
    (hwords : words.map .ok = (bases.zipIdx start).map fun q =>
      assembleInstruction .rv32i labels (4 * (q.2 : Int)) q.1) :
    words.map .ok = (bases'.zipIdx start).map fun q =>
      assembleInstruction .rv32i labels (4 * (q.2 : Int)) q.1 := by
  induction h generalizing words start with
  | nil => exact hwords
  | cons hbase _ ih =>
    rw [List.zipIdx_cons, List.map_cons] at hwords ⊢
    obtain ⟨word, words, rfl, hword, hwords⟩ := List.map_eq_cons_iff.mp hwords
    rw [List.map_cons, hbase.assembleInstruction_eq_ok hword.symm, ih hwords]

/-- **Lines that read the same have the same words.** -/
theorem HasWords.reread {ls ls' : List String} {words : List Int} (h : HasWords .rv32i ls words)
    (hlines : List.Forall₂ RereadLine ls ls') : HasWords .rv32i ls' words := by
  obtain ⟨hinstructions, hlabels, hexpands⟩ := layout_of_rereadLines hlines
  have hplaces : ∀ ls : List String, ∀ labels,
      (placements ls).map (fun p => assembleInstruction .rv32i labels p.address p.tokens)
        = ((ls.flatMap lineInstructions).zipIdx).map fun q =>
          assembleInstruction .rv32i labels (4 * (q.2 : Int)) q.1 := by
    intro ls labels
    have hmap := congrArg (List.map fun q : List String × Int =>
      assembleInstruction .rv32i labels q.2 q.1) (map_tokens_address_placements ls)
    rw [List.map_map, List.map_map] at hmap
    exact hmap
  have hwords := h.words
  rw [hplaces] at hwords
  refine ⟨⟨hexpands, hlabels ▸ h.declares.distinct⟩, ?_⟩
  rw [hplaces, hlabels]
  exact map_ok_of_reread hinstructions hwords

/-! ### Programs -/

/-- The mnemonics of a program are known. -/
theorem HasWords.mem_knownMnemonics {ls : List String} {words : List Int}
    (h : HasWords .rv32i ls words) {line : String} (hline : line ∈ ls)
    (hne : stripLabel (tokenize line) ≠ []) :
    lowercase ((stripLabel (tokenize line)).headD "") ∈ knownMnemonics := by
  obtain ⟨instructions, hexpand⟩ := h.declares.expands line hline
  have hok := (expandLine_eq_ok.mp hexpand).2
  have hexpand' : expand (stripLabel (tokenize line)) = .ok instructions := by
    rw [lineExpansion] at hok
    split at hok
    · exact absurd ‹_› hne
    · exact hok
  refine RiscvAssembler.mem_knownMnemonics hne hexpand' fun base hbase => ?_
  have hmem : base ∈ (placements ls).map Placement.tokens := by
    rw [map_tokens_placements, List.mem_flatMap]
    exact ⟨line, hline, by rwa [lineInstructions_of_eq_ok hok]⟩
  obtain ⟨p, hp, rfl⟩ := List.mem_map.mp hmem
  obtain ⟨w, hw⟩ := exists_map_eq_ok.mp ⟨words, h.words.symm⟩ p hp
  exact ⟨_, _, w, hw⟩

/-- The tokens of lines that are assembled have been given other names for the same, line by
line. -/
theorem HasWords.spec_of_respelled {ls : List String} {words : List Int}
    (h : HasWords .rv32i ls words) {rows : List (List String)}
    (hrows : List.Forall₂ RespelledRow (ls.map tokenize) rows) :
    List.Forall₂ (fun line row =>
      leadingLabel? row = leadingLabel? (tokenize line) ∧
        Respelled (stripLabel (tokenize line)) (stripLabel row) ∧
        List.Forall₂ Replaces (tokenize line) row) ls rows := by
  have hknown := fun line (hline : line ∈ ls) => h.mem_knownMnemonics hline
  rw [List.forall₂_map_left_iff] at hrows
  clear h
  induction hrows with
  | nil => exact .nil
  | cons hrow _ ih =>
    obtain ⟨hline, hrest⟩ := List.forall_mem_cons.mp hknown
    exact .cons (hrow.spec hline) (ih hrest)

/-- Lines that are assembled read the same if their tokens have been given other names. -/
theorem HasWords.forall₂_rereadLine {ls ls' : List String} {words : List Int}
    (h : HasWords .rv32i ls words)
    (hrows : List.Forall₂ RespelledRow (ls.map tokenize) (ls'.map tokenize)) :
    List.Forall₂ RereadLine ls ls' := by
  have hspec := h.spec_of_respelled hrows
  have hexpands := h.declares.expands
  rw [List.forall₂_map_right_iff] at hspec
  clear h hrows
  induction hspec with
  | nil => exact .nil
  | cons hline _ ih =>
    obtain ⟨⟨_, hexpand⟩, hrest⟩ := List.forall_mem_cons.mp hexpands
    obtain ⟨hlabel, hrespelled, hreplaces⟩ := hline
    exact .cons (.of_respelled hexpand hlabel hrespelled hreplaces.length_eq.symm) (ih hrest)

namespace Session

variable {s : Session} {text : String} {words : List Int} {rows : List (List String)}

/-- **Other names for the same change nothing.** A program in which mnemonics are spelled otherwise
and registers have other names is assembled to the same words and has the same symbols, whether the
names are written over the old ones, or the text is another one with these tokens. -/
theorem assemble_respelled (hs : s.table = .rv32i) (h : (s.assemble text).result = .ok words)
    (hrows : List.Forall₂ RespelledRow ((lines text).map tokenize) rows) :
    (lines (retoken rows text)).map tokenize = rows ∧
      ∀ text', (lines text').map tokenize = rows →
        (s.assemble text').result = .ok words ∧
          (s.assemble text').session.symbols = (s.assemble text).session.symbols := by
  obtain ⟨hdeclares, hwords⟩ := assemble_eq_ok.mp h
  rw [hs] at hwords
  have hwords : HasWords .rv32i (lines text) words := ⟨hdeclares, hwords⟩
  constructor
  · refine tokenize_retoken (List.forall₂_map_left_iff.mpr ?_)
    exact (hwords.spec_of_respelled hrows).imp fun _ _ hline => hline.2.2
  · rintro text' rfl
    have hreread := hwords.forall₂_rereadLine hrows
    have hsame := hwords.reread hreread
    have hresult : (s.assemble text').result = .ok words := by
      refine assemble_eq_ok.mpr ⟨hsame.declares, ?_⟩
      rw [hs]
      exact hsame.words
    refine ⟨hresult, ?_⟩
    rw [(holds_of_ok hresult).1.symbols, (holds_of_ok h).1.symbols,
      (layout_of_rereadLines hreread).2.1]

/-- A loop that counts down in a register. -/
def countdownProgram : String :=
  "loop: addi s0, s0, -1 // count\n  bnez s0, loop\n"

/-- The tokens of the loop, with other names of its register. -/
def countdownRows : List (List String) :=
  [["loop:", "ADDI", "fp", "X8", "-1"], ["BneZ", "x8", "loop"]]

theorem respelled_decrement :
    Respelled ["addi", "s0", "s0", "-1"] ["ADDI", "fp", "X8", "-1"] := by
  have hexpand : expand ["addi", "s0", "s0", "-1"] = .ok [["addi", "s0", "s0", "-1"]] := by decide
  refine ⟨rfl, by decide +kernel, fun k hpos hlt => ?_⟩
  have hcases : k = 1 ∨ k = 2 ∨ k = 3 := by
    simp only [List.length_cons, List.length_nil] at hlt
    omega
  rcases hcases with rfl | rfl | rfl
  · exact .inr ⟨⟨_, _, 1, hexpand, List.mem_singleton_self _, by decide, readsRegisterAt_addi.1⟩,
      8, by decide +kernel, by decide +kernel⟩
  · exact .inr ⟨⟨_, _, 2, hexpand, List.mem_singleton_self _, by decide, readsRegisterAt_addi.2⟩,
      8, by decide +kernel, by decide +kernel⟩
  · exact .inl rfl

theorem respelled_branch : Respelled ["bnez", "s0", "loop"] ["BneZ", "x8", "loop"] := by
  have hexpand : expand ["bnez", "s0", "loop"] = .ok [["bne", "s0", "x0", "loop"]] := by decide
  have hreads : ReadsRegisterAt ["bne", "s0", "x0", "loop"] 1 := ⟨_, .rs1, rfl, by decide, rfl⟩
  refine ⟨rfl, by decide +kernel, fun k hpos hlt => ?_⟩
  have hcases : k = 1 ∨ k = 2 := by
    simp only [List.length_cons, List.length_nil] at hlt
    omega
  rcases hcases with rfl | rfl
  · exact .inr ⟨⟨_, _, 1, hexpand, List.mem_singleton_self _, by decide, hreads⟩, 8,
      by decide +kernel, by decide +kernel⟩
  · exact .inl rfl

/-- The register has three names in the new text, and the comment is still there. -/
theorem assemble_respelled_countdownProgram :
    (start none false).table = .rv32i ∧
      ((start none false).assemble countdownProgram).result = .ok [0xFFF40413, 0xFE041EE3] ∧
      List.Forall₂ RespelledRow ((lines countdownProgram).map tokenize) countdownRows ∧
      retoken countdownRows countdownProgram
        = "loop: ADDI fp, X8, -1 // count\n  BneZ x8, loop\n" ∧
      ((start none false).assemble (retoken countdownRows countdownProgram)).result
        = .ok [0xFFF40413, 0xFE041EE3] ∧
      ((start none false).assemble (retoken countdownRows countdownProgram)).session.symbols
        = ((start none false).assemble countdownProgram).session.symbols := by
  have hwords : ((start none false).assemble countdownProgram).result
      = .ok [0xFFF40413, 0xFE041EE3] := by decide +kernel
  have htokens : (lines countdownProgram).map tokenize
      = [["loop:", "addi", "s0", "s0", "-1"], ["bnez", "s0", "loop"]] := by decide +kernel
  have hrows : List.Forall₂ RespelledRow ((lines countdownProgram).map tokenize)
      countdownRows := by
    rw [htokens]
    exact .cons ⟨_, rfl, respelled_decrement⟩ (.cons ⟨_, rfl, respelled_branch⟩ .nil)
  obtain ⟨hretoken, hsame⟩ := assemble_respelled rfl hwords hrows
  obtain ⟨hresult, hsymbols⟩ := hsame _ hretoken
  exact ⟨rfl, hwords, hrows, by decide +kernel, hresult, hsymbols⟩

end Session

end RiscvAssembler
