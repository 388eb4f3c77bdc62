import Mathlib.Data.List.Basic
import RiscvAssembler.Proofs.Answer
import RiscvAssembler.Proofs.Dictionary
import RiscvAssembler.Proofs.Literal
import RiscvAssembler.Proofs.Word.BitField
import RiscvAssembler.Pseudo

/-!
# What pseudo-instructions stand for

A template puts the operands of a pseudo-instruction and some fixed texts after a fixed mnemonic. So
everything in the base instructions was in the line already, or is one of those texts, or is the
numeral of a part of a constant. Expansion is done in one go: what it brings forth is a base
instruction, with too many operands to be a short form.

## Main definitions

* `ExpandsTo`: the base instructions of a line, case by case.
* `Pseudo.names`: the mnemonics that are always expanded.
* `Pseudo.fixedTexts`: the texts that expansion brings in.
* `IsInstruction`: tokens that have a mnemonic and no blanks.

## Main results

* `Pseudo.mem_of_find?`: where a template comes from.
* `expandsTo_of_eq_ok`: the cases of an expansion.
* `ExpandsTo.forall_mem`: what holds of all texts brought in is kept by expansion.
* `ExpandsTo.isPseudo_eq_false`: nothing is left to be expanded.
* `ExpandsTo.eq_singleton`: what other mnemonics stand for.
* `ExpandsTo.load_cases`: what a load stands for.
* `expand_loadLabel`: loading the address of a label takes one instruction.
-/

namespace RiscvAssembler

open Text

namespace Pseudo

/-- The template of a mnemonic is listed under it, or under a mnemonic with a short form. -/
theorem mem_of_find?_template {mnemonic name : String} {count : Nat} {t : Template}
    (h : find? mnemonic count = some (.template name t)) :
    name = mnemonic ∧ ((mnemonic, t) ∈ templates ∨ (mnemonic, t) ∈ shortForms) := by
  rw [find?] at h
  split at h
  · cases h
  · split at h
    · rename_i hlookup
      cases h
      exact ⟨rfl, .inl (Dictionary.mem_of_lookup hlookup)⟩
    · split at h
      · obtain ⟨t', hlookup, heq⟩ := Option.map_eq_some_iff.mp h
        cases heq
        exact ⟨rfl, .inr (Dictionary.mem_of_lookup hlookup)⟩
      · cases h

/-- The template of a mnemonic is one of those listed. -/
theorem mem_of_find? {mnemonic name : String} {count : Nat} {t : Template}
    (h : find? mnemonic count = some (.template name t)) :
    (name, t) ∈ templates ++ shortForms := by
  obtain ⟨rfl, hmem⟩ := mem_of_find?_template h
  exact List.mem_append.mpr hmem

/-- The mnemonics that are always expanded. -/
def names : List String :=
  "li" :: templates.map Prod.fst

/-- A short form stands for the instruction with the same mnemonic. -/
theorem lowercase_mnemonic_of_mem_shortForms : ∀ p ∈ shortForms, lowercase p.2.mnemonic = p.1 := by
  decide +kernel

/-- Only one mnemonic loads a constant. -/
theorem eq_of_find?_loadImmediate {mnemonic : String} {count : Nat}
    (h : find? mnemonic count = some .loadImmediate) : mnemonic = "li" := by
  rw [find?] at h
  split at h
  · assumption
  · split at h
    · cases h
    · split at h
      · obtain ⟨_, -, heq⟩ := Option.map_eq_some_iff.mp h
        cases heq
      · cases h

/-- The position of the operand that stands in a slot. -/
def Slot.position? : Slot → Option Nat
  | fixed _ => none
  | operand position => some position

/-- The text that stands in a slot whatever the operands are. -/
def Slot.text? : Slot → Option String
  | fixed text => some text
  | operand _ => none

/-- A template takes no operands but those that it needs. -/
theorem lt_arity : ∀ p ∈ templates ++ shortForms,
    ∀ n ∈ p.2.slots.filterMap Slot.position?, n < p.2.arity := by
  decide

/-- An operand stands in the base instruction as it is. -/
theorem fill_mem {name : String} {t : Template} (ht : (name, t) ∈ templates ++ shortForms)
    {operands : List String} (hlength : operands.length = t.arity) {position : Nat}
    (h : .operand position ∈ t.slots) : (Slot.operand position).fill operands ∈ operands := by
  have hlt := lt_arity _ ht position (List.mem_filterMap.mpr ⟨_, h, rfl⟩)
  rw [← hlength] at hlt
  rw [Slot.fill, List.getD_eq_getElem?_getD, List.getElem?_eq_getElem hlt, Option.getD_some]
  exact List.getElem_mem hlt

/-- The slot at a position of the base instruction. -/
def Template.slot? (t : Template) (n : Nat) : Option Slot :=
  (.fixed t.mnemonic :: t.slots)[n]?

theorem Template.getD_fill {t : Template} {n : Nat} {slot : Slot} (h : t.slot? n = some slot)
    (operands : List String) : (t.fill operands).getD n "" = slot.fill operands := by
  have hfill : t.fill operands = (.fixed t.mnemonic :: t.slots).map (Slot.fill operands) := rfl
  rw [slot?] at h
  rw [hfill, List.getD_eq_getElem?_getD, List.getElem?_map, h]
  rfl

/-- What a template stands for is no pseudo-instruction, and no short form for its operands. -/
theorem find?_mnemonic : ∀ p ∈ templates ++ shortForms,
    find? (lowercase p.2.mnemonic) p.2.slots.length = none := by
  decide +kernel

theorem length_of_checkCount {name : String} {operands : List String} {required : Nat}
    (h : checkCount name operands required = .ok ()) : operands.length = required := by
  rw [checkCount] at h
  split at h
  · assumption
  · cases h

/-- The instructions that load a constant have the register as their first operand, and the numeral
of a part of it, which has room in its field, as their last one. -/
theorem mem_loadConstant {rd : String} {value : Int} {tokens : List String}
    (h : tokens ∈ loadConstant rd value) :
    (∃ n, (0 ≤ n ∧ n ≤ 0xFFFFF) ∧ tokens = ["lui", rd, decimal n]) ∨
      ∃ rs ∈ ["x0", rd], ∃ n, (-2048 ≤ n ∧ n ≤ 2047) ∧ tokens = ["addi", rd, rs, decimal n] := by
  rw [loadConstant] at h
  split at h
  · rename_i hsmall
    exact .inr ⟨"x0", by simp, value, hsmall, List.mem_singleton.mp h⟩
  · cases hsplit : splitConstant value with
    | mk upper lower =>
      obtain ⟨hupper, hlower, -, -⟩ := splitConstant_eq hsplit
      rw [hsplit] at h
      rcases List.mem_cons.mp h with rfl | h
      · exact .inl ⟨upper, hupper, rfl⟩
      · split at h
        · cases h
        · exact .inr ⟨rd, by simp, lower, hlower, List.mem_singleton.mp h⟩

theorem length_loadConstant (rd : String) (value : Int) :
    1 ≤ (loadConstant rd value).length ∧ (loadConstant rd value).length ≤ 2 := by
  rw [loadConstant]
  split
  · simp
  · dsimp only
    split <;> simp

end Pseudo

/-! ### The cases of an expansion -/

open Pseudo in
/-- What the tokens of an instruction stand for. -/
inductive ExpandsTo : List String → List (List String) → Prop
  | itself {tokens : List String} (h : isPseudo tokens = false) : ExpandsTo tokens [tokens]
  | template {mnemonic name : String} {operands : List String} {t : Template}
      (hp : find? (lowercase mnemonic) operands.length = some (.template name t))
      (hlength : operands.length = t.arity) : ExpandsTo (mnemonic :: operands) [t.fill operands]
  | address {mnemonic rd operand : String} (hm : lowercase mnemonic = "li")
      (hname : isLabelName (trim operand) = true) :
      ExpandsTo [mnemonic, rd, operand] [["addi", rd, "x0", trim operand]]
  | constant {mnemonic rd operand : String} {value : Int} (hm : lowercase mnemonic = "li")
      (hvalue : parseImmediate (trim operand) = .ok value) :
      ExpandsTo [mnemonic, rd, operand] (loadConstant rd value)

/-- A constant is loaded, or the address of a label. -/
theorem expandsTo_of_expandLoad {mnemonic rd operand : String} (hm : lowercase mnemonic = "li")
    {instructions : List (List String)} (h : Pseudo.expandLoad rd operand = .ok instructions) :
    ExpandsTo [mnemonic, rd, operand] instructions := by
  rw [Pseudo.expandLoad] at h
  split at h
  · rename_i hlabel
    cases h
    exact .address hm (Bool.and_eq_true_iff.mp hlabel).2
  · split at h
    · cases h
    · rename_i value hvalue
      split at h
      · cases h
        exact .constant hm hvalue
      · cases h

theorem expandsTo_of_eq_ok {tokens : List String} {instructions : List (List String)}
    (h : expand tokens = .ok instructions) : ExpandsTo tokens instructions := by
  rw [expand] at h
  cases hp : Pseudo.ofTokens? tokens with
  | none =>
    rw [hp] at h
    cases h
    refine .itself ?_
    rw [isPseudo, hp]
    rfl
  | some p =>
    rw [hp] at h
    cases tokens with
    | nil => cases hp
    | cons mnemonic operands =>
      cases p with
      | loadImmediate =>
        obtain ⟨_, hcount, h⟩ := bind_eq_ok.mp h
        obtain ⟨rd, operand, rfl⟩ := List.length_eq_two.mp (Pseudo.length_of_checkCount hcount)
        exact expandsTo_of_expandLoad (Pseudo.eq_of_find?_loadImmediate hp) h
      | template name t =>
        obtain ⟨_, hcount, h⟩ := bind_eq_ok.mp h
        cases h
        exact .template hp (Pseudo.length_of_checkCount hcount)

/-! ### Texts brought in -/

namespace Pseudo

/-- The texts that expansion brings in, numerals apart. -/
def fixedTexts : List String :=
  ["addi", "lui", "x0"] ++ (templates ++ shortForms).flatMap fun p =>
    p.2.mnemonic :: p.2.slots.filterMap Slot.text?

/-- Everything that expansion brings in is of one kind. -/
structure BringsIn (P : String → Prop) : Prop where
  fixed : ∀ text ∈ fixedTexts, P text
  decimal : ∀ n, P (decimal n)

theorem bringsIn_unblanked : BringsIn Unblanked where
  fixed := by decide
  decimal := unblanked_decimal

variable {P : String → Prop}

theorem BringsIn.addi (h : BringsIn P) : P "addi" :=
  h.fixed _ (by decide)

theorem BringsIn.lui (h : BringsIn P) : P "lui" :=
  h.fixed _ (by decide)

theorem BringsIn.zero (h : BringsIn P) : P "x0" :=
  h.fixed _ (by decide)

/-- The texts of a template, and the operands that it takes. -/
theorem BringsIn.forall_mem_fill (h : BringsIn P) {name : String} {t : Template}
    (ht : (name, t) ∈ templates ++ shortForms) {operands : List String}
    (hlength : operands.length = t.arity) (ho : ∀ token ∈ operands, P token) :
    ∀ token ∈ t.fill operands, P token := by
  have hfixed : ∀ text ∈ t.mnemonic :: t.slots.filterMap Slot.text?, P text := fun text htext =>
    h.fixed _ (List.mem_append_right _ (List.mem_flatMap.mpr ⟨_, ht, htext⟩))
  refine List.forall_mem_cons.mpr ⟨hfixed _ List.mem_cons_self, fun token htoken => ?_⟩
  obtain ⟨slot, hslot, rfl⟩ := List.mem_map.mp htoken
  cases slot with
  | fixed text =>
    exact hfixed _ (List.mem_cons_of_mem _ (List.mem_filterMap.mpr ⟨_, hslot, rfl⟩))
  | operand position => exact ho _ (fill_mem ht hlength hslot)

theorem BringsIn.forall_mem_loadConstant (h : BringsIn P) {rd : String} (hrd : P rd) (value : Int) :
    ∀ tokens ∈ loadConstant rd value, ∀ token ∈ tokens, P token := by
  intro tokens htokens
  rcases mem_loadConstant htokens with ⟨n, -, rfl⟩ | ⟨rs, hrs, n, -, rfl⟩
  · simp [h.lui, hrd, h.decimal n]
  · have hrs : P rs := by
      have hregisters : ∀ rs ∈ ["x0", rd], P rs := by simp [h.zero, hrd]
      exact hregisters rs hrs
    simp [h.addi, hrd, hrs, h.decimal n]

end Pseudo

theorem isPseudo_cons {mnemonic : String} {operands : List String} {count : Nat}
    (hcount : operands.length = count) (h : Pseudo.find? (lowercase mnemonic) count = none) :
    isPseudo (mnemonic :: operands) = false := by
  rw [isPseudo, Pseudo.ofTokens?, hcount, h]
  rfl

/-- Tokens that are no pseudo-instruction stand for themselves. -/
theorem expand_eq_self {tokens : List String} (h : isPseudo tokens = false) :
    expand tokens = .ok [tokens] := by
  rw [expand, Option.not_isSome_iff_eq_none.mp (Bool.eq_false_iff.mp h)]

/-- The tokens of an instruction: there is a mnemonic, and none of them has blanks. -/
structure IsInstruction (tokens : List String) : Prop where
  ne_nil : tokens ≠ []
  unblanked : ∀ token ∈ tokens, Unblanked token

namespace ExpandsTo

variable {tokens : List String} {instructions : List (List String)}

/-- **Expansion keeps what holds of everything it brings in.** -/
theorem forall_mem (h : ExpandsTo tokens instructions) {P : String → Prop}
    (hP : Pseudo.BringsIn P) (hblank : ∀ token ∈ tokens, Unblanked token)
    (ht : ∀ token ∈ tokens, P token) : ∀ tokens ∈ instructions, ∀ token ∈ tokens, P token := by
  cases h with
  | itself => exact List.forall_mem_singleton.mpr ht
  | template hp hlength =>
    exact List.forall_mem_singleton.mpr (hP.forall_mem_fill (Pseudo.mem_of_find? hp) hlength
      (List.forall_mem_cons.mp ht).2)
  | @address mnemonic rd operand =>
    have hoperand : trim operand = operand := (hblank operand (by simp)).trim_eq
    have hrd := ht rd (by simp)
    have hlabel := ht operand (by simp)
    rw [hoperand, List.forall_mem_singleton]
    simp [hP.addi, hP.zero, hrd, hlabel]
  | @constant mnemonic rd operand value =>
    exact hP.forall_mem_loadConstant (ht rd (by simp)) value

/-- Instructions have mnemonics. -/
theorem ne_nil (h : ExpandsTo tokens instructions) (hne : tokens ≠ []) :
    ∀ tokens ∈ instructions, tokens ≠ [] := by
  cases h with
  | itself => exact List.forall_mem_singleton.mpr hne
  | template => exact List.forall_mem_singleton.mpr (List.cons_ne_nil _ _)
  | address => exact List.forall_mem_singleton.mpr (List.cons_ne_nil _ _)
  | constant =>
    intro tokens htokens
    rcases Pseudo.mem_loadConstant htokens with ⟨_, -, rfl⟩ | ⟨_, _, _, -, rfl⟩ <;>
      exact List.cons_ne_nil _ _

/-- **Instructions expand to instructions**, without blanks and with mnemonics. -/
theorem isInstruction (h : ExpandsTo tokens instructions) (ht : IsInstruction tokens) :
    ∀ tokens ∈ instructions, IsInstruction tokens := by
  intro instruction hinstruction
  exact ⟨h.ne_nil ht.ne_nil _ hinstruction,
    h.forall_mem Pseudo.bringsIn_unblanked ht.unblanked ht.unblanked _ hinstruction⟩

/-- **Nothing is left to be expanded.** -/
theorem isPseudo_eq_false (h : ExpandsTo tokens instructions) :
    ∀ tokens ∈ instructions, isPseudo tokens = false := by
  have haddi : Pseudo.find? (lowercase "addi") 3 = none := by decide +kernel
  have hlui : Pseudo.find? (lowercase "lui") 2 = none := by decide +kernel
  cases h with
  | itself h => exact List.forall_mem_singleton.mpr h
  | template hp =>
    have hbase := Pseudo.find?_mnemonic _ (Pseudo.mem_of_find? hp)
    exact List.forall_mem_singleton.mpr (isPseudo_cons (List.length_map _) hbase)
  | address => exact List.forall_mem_singleton.mpr (isPseudo_cons rfl haddi)
  | constant =>
    intro tokens htokens
    rcases Pseudo.mem_loadConstant htokens with ⟨_, -, rfl⟩ | ⟨_, _, _, -, rfl⟩
    · exact isPseudo_cons rfl hlui
    · exact isPseudo_cons rfl haddi

/-- There are one or two instructions. -/
theorem length_bounds (h : ExpandsTo tokens instructions) :
    1 ≤ instructions.length ∧ instructions.length ≤ 2 := by
  cases h with
  | itself | template | address => simp
  | @constant _ rd _ value => exact Pseudo.length_loadConstant rd value

/-- **A mnemonic that is not always expanded** stands for one instruction with this mnemonic: the
line itself, or the long form of it. -/
theorem eq_singleton {mnemonic : String} {operands : List String}
    (h : ExpandsTo (mnemonic :: operands) instructions) (hm : lowercase mnemonic ∉ Pseudo.names) :
    ∃ tokens, instructions = [tokens] ∧ lowercase (tokens.headD "") = lowercase mnemonic := by
  cases h with
  | itself => exact ⟨_, rfl, rfl⟩
  | @template _ _ _ t hp =>
    obtain ⟨rfl, hlong | hshort⟩ := Pseudo.mem_of_find?_template hp
    · exact absurd (List.mem_cons_of_mem _ (List.mem_map_of_mem (f := Prod.fst) hlong)) hm
    · have hname : lowercase t.mnemonic = lowercase mnemonic :=
        Pseudo.lowercase_mnemonic_of_mem_shortForms (lowercase mnemonic, t) hshort
      exact ⟨t.fill operands, rfl, hname⟩
  | address hli => exact absurd (hli ▸ List.mem_cons_self) hm
  | constant hli => exact absurd (hli ▸ List.mem_cons_self) hm

end ExpandsTo

/-- **A load stands for two things only**: the address of a label, or the instructions for a
constant. -/
theorem ExpandsTo.load_cases {mnemonic rd operand : String} {instructions : List (List String)}
    (h : ExpandsTo [mnemonic, rd, operand] instructions) (hm : lowercase mnemonic = "li") :
    (isLabelName (trim operand) = true ∧ instructions = [["addi", rd, "x0", trim operand]]) ∨
      ∃ value, parseImmediate (trim operand) = .ok value ∧
        instructions = Pseudo.loadConstant rd value := by
  have hfind : Pseudo.find? (lowercase mnemonic) 2 = some .loadImmediate := by
    rw [hm, Pseudo.find?, if_pos rfl]
  cases h with
  | itself hnone =>
    rw [isPseudo, Pseudo.ofTokens?, List.length_cons, List.length_singleton, hfind] at hnone
    cases hnone
  | template hp => cases hfind.symm.trans hp
  | address _ hname => exact .inl ⟨hname, rfl⟩
  | constant _ hvalue => exact .inr ⟨_, hvalue, rfl⟩

/-- **Loading the address of a label takes one instruction**, with the label as its immediate. -/
theorem expand_loadLabel {mnemonic rd label : String} (hm : lowercase mnemonic = "li")
    (hlabel : Unblanked label) (hl : isLiteral label = false) {instructions : List (List String)}
    (h : expand [mnemonic, rd, label] = .ok instructions) :
    instructions = [["addi", rd, "x0", label]] := by
  have hcases := (expandsTo_of_eq_ok h).load_cases hm
  rw [hlabel.trim_eq] at hcases
  rcases hcases with ⟨-, hinstructions⟩ | ⟨value, hvalue, -⟩
  · exact hinstructions
  · rw [isLiteral, hvalue] at hl
    cases hl

end RiscvAssembler
