import Mathlib.Data.List.Forall2
import Mathlib.Data.List.Nodup
import RiscvAssembler.Proofs.Answer
import RiscvAssembler.Proofs.Dictionary
import RiscvAssembler.Proofs.Text.Lowercase
import RiscvAssembler.Table.Load

/-!
# What the reader of tables reads

A table is read from a value part by part, and each part is a reader of its own. For each of them it
is stated on which values it succeeds and what it then reads, so that what a table describes can be
said without the readers.

## Main definitions

* `Instruction.WellFormed`: the constants of an instruction fit the word.
* `Instruction.IsGivenBy`: the constants of an instruction are those of an entry.
* `InstructionTable.Describes`: a mapping describes a table with the given parts.

## Main results

* `instructionEntry_eq_ok`, `instructionEntries_eq_ok`: the entries that are read.
* `InstructionTable.ofYaml_eq_ok`: the values that tables are read from.
* `InstructionTable.ofLists_eq_ok`: parts that go together make a table.
-/

namespace RiscvAssembler

open Text
open Yaml (Value)

/-- The code is a number of three bits. -/
def FunctionCode.IsThreeBit : FunctionCode → Prop
  | code n => 0 ≤ n ∧ n ≤ 7
  | unchecked _ => False

instance : (f : FunctionCode) → Decidable f.IsThreeBit
  | .code n => inferInstanceAs (Decidable (0 ≤ n ∧ n ≤ 7))
  | .unchecked _ => inferInstanceAs (Decidable False)

namespace Instruction

/-- Every constant that the word of the instruction stores is there and fits its field. -/
structure WellFormed (i : Instruction) : Prop where
  opcode_nonneg : 0 ≤ i.opcode
  opcode_le : i.opcode ≤ 0x7F
  funct3 : i.format.hasFunct3 = true → ∃ f ∈ i.funct3, f.IsThreeBit
  funct7 : ∀ n ∈ i.funct7, 0 ≤ n ∧ n ≤ 0x7F
  isSome_funct7 : i.format.hasFunct7 = true → i.funct7.isSome = true

instance (i : Instruction) : Decidable i.WellFormed :=
  decidable_of_iff
    (0 ≤ i.opcode ∧ i.opcode ≤ 0x7F ∧ (i.format.hasFunct3 = true → ∃ f ∈ i.funct3, f.IsThreeBit) ∧
      (∀ n ∈ i.funct7, 0 ≤ n ∧ n ≤ 0x7F) ∧ (i.format.hasFunct7 = true → i.funct7.isSome = true))
    ⟨fun ⟨h₁, h₂, h₃, h₄, h₅⟩ => ⟨h₁, h₂, h₃, h₄, h₅⟩,
      fun ⟨h₁, h₂, h₃, h₄, h₅⟩ => ⟨h₁, h₂, h₃, h₄, h₅⟩⟩

end Instruction

namespace InstructionTable

/-! ### Readers of values

Each reader succeeds on the values that are described here, and on no others. -/

theorem boundedInt_eq_ok {what : String} {low high n : Int} {v : Value} :
    boundedInt what low high v = .ok n ↔ v = .int n ∧ low ≤ n ∧ n ≤ high := by
  cases v
  case int k =>
    rw [boundedInt, Value.int.injEq]
    split
    case isTrue h =>
      rw [Except.ok.injEq]
      exact ⟨fun hk => ⟨hk, hk ▸ h⟩, And.left⟩
    case isFalse h =>
      refine ⟨fun hfail => (nomatch hfail), ?_⟩
      rintro ⟨rfl, hbounds⟩
      exact absurd hbounds h
  all_goals exact ⟨fun h => (nomatch h), fun h => (nomatch h.1)⟩

theorem nameField_eq_ok {table : List (Value × Value)} {name : String} :
    nameField table = .ok name ↔ Value.get? "name" table = some (.str name) ∨
      Value.get? "name" table = none ∧ name = defaultName := by
  rw [nameField]
  split
  · simp [*, eq_comm]
  · simp [*]
  · rename_i v hstr h
    rw [h]
    simpa [TableFault.fail] using hstr name

/-- A part of a table is read if it is a mapping with entries. -/
theorem partEntries_eq_ok {table entries : List (Value × Value)} {part : String} :
    partEntries table part = .ok entries ↔
      Value.get? part table = some (.map entries) ∧ entries ≠ [] := by
  rw [partEntries]
  split
  · simp [TableFault.fail, *]
  · rename_i entry rest h
    rw [h]
    constructor
    · rintro ⟨⟩
      exact ⟨rfl, List.cons_ne_nil _ _⟩
    · rintro ⟨⟨⟩, -⟩
      rfl
  · rename_i v hmap h
    rw [h]
    refine ⟨fun hfail => (nomatch hfail), ?_⟩
    rintro ⟨⟨⟩, hne⟩
    obtain ⟨entry, rest, rfl⟩ := List.exists_cons_of_ne_nil hne
    exact absurd rfl (hmap entry rest)

theorem letter_of_ofLetter? {letter : String} {f : Format} (h : Format.ofLetter? letter = some f) :
    f.letter = letter := by
  have hfound := List.find?_some h
  exact eq_of_beq hfound

/-- The entry of `formats` for an opcode and its format. -/
def formatLine (p : Int × Format) : Value × Value :=
  (.int p.1, .str p.2.letter)

theorem formatLine_injective : Function.Injective formatLine := by
  rintro ⟨opcode, f⟩ ⟨opcode', f'⟩ h
  simp only [formatLine, Prod.mk.injEq, Value.int.injEq, Value.str.injEq] at h
  have hformat := congrArg Format.ofLetter? h.2
  simp only [Format.ofLetter?_letter, Option.some.injEq] at hformat
  rw [h.1, hformat]

theorem formatEntry_eq_ok {e : Value × Value} {p : Int × Format} :
    formatEntry e = .ok p ↔ e = formatLine p ∧ 0 ≤ p.1 ∧ p.1 ≤ 0x7F := by
  obtain ⟨key, value⟩ := e
  obtain ⟨opcode, f⟩ := p
  simp only [formatEntry, bind_eq_ok, boundedInt_eq_ok, formatLine, Prod.mk.injEq]
  constructor
  · rintro ⟨n, ⟨rfl, hbounds⟩, h⟩
    split at h
    · split at h
      · rename_i letter g hg
        cases h
        exact ⟨⟨rfl, congrArg Value.str (letter_of_ofLetter? hg).symm⟩, hbounds⟩
      · cases h
    · split at h <;> cases h
  · rintro ⟨⟨rfl, rfl⟩, hbounds⟩
    exact ⟨opcode, ⟨rfl, hbounds⟩, by simp⟩

/-- All entries are read exactly if there is a list of what is read. -/
theorem mapM_formatEntry_eq_ok {entries : List (Value × Value)} {formats : List (Int × Format)} :
    entries.mapM formatEntry = .ok formats ↔
      entries = formats.map formatLine ∧ ∀ p ∈ formats, 0 ≤ p.1 ∧ p.1 ≤ 0x7F := by
  induction entries generalizing formats with
  | nil => cases formats <;> simp
  | cons e entries ih =>
    simp only [List.mapM_cons, bind_eq_ok, pure_eq_ok, formatEntry_eq_ok, ih]
    constructor
    · rintro ⟨p, ⟨rfl, hp⟩, ps, ⟨rfl, hps⟩, rfl⟩
      exact ⟨rfl, List.forall_mem_cons.mpr ⟨hp, hps⟩⟩
    · rintro ⟨hentries, hbounds⟩
      obtain ⟨p, ps, rfl, rfl, rfl⟩ := List.map_eq_cons_iff.mp hentries.symm
      obtain ⟨hp, hps⟩ := List.forall_mem_cons.mp hbounds
      exact ⟨p, ⟨rfl, hp⟩, ps, ⟨rfl, hps⟩, rfl⟩

end InstructionTable

/-! ### Entries of instructions -/

/-- The function code that a value is kept as. -/
def FunctionCode.ofValue : Value → FunctionCode
  | .int n => .code n
  | v => .unchecked v

theorem FunctionCode.isThreeBit_ofValue {v : Value} :
    (ofValue v).IsThreeBit ↔ ∃ n, v = .int n ∧ 0 ≤ n ∧ n ≤ 7 := by
  cases v <;> simp [ofValue, IsThreeBit]

namespace InstructionTable

/-- A three-bit function code is checked if the format stores it. -/
theorem funct3Field_eq_ok {m : String} {format : Format} {entry : List (Value × Value)}
    {o : Option FunctionCode} :
    funct3Field m format entry = .ok o ↔
      (givenValue? entry "funct3").map FunctionCode.ofValue = o ∧
        (format.hasFunct3 = true → ∃ f ∈ o, f.IsThreeBit) := by
  rw [funct3Field]
  cases givenValue? entry "funct3" with
  | none => cases format.hasFunct3 <;> cases o <;> simp [TableFault.fail]
  | some v =>
    cases format.hasFunct3 with
    | true =>
      simp only [if_true, bind_eq_ok, pure_eq_ok, boundedInt_eq_ok, forall_const]
      constructor
      · rintro ⟨n, ⟨rfl, hbounds⟩, rfl⟩
        exact ⟨rfl, _, rfl, hbounds⟩
      · rintro ⟨rfl, hcode⟩
        obtain ⟨f, ⟨⟩, hbits⟩ := hcode
        obtain ⟨n, rfl, hbounds⟩ := FunctionCode.isThreeBit_ofValue.mp hbits
        exact ⟨n, ⟨rfl, hbounds⟩, rfl⟩
    | false => cases v <;> simp [FunctionCode.ofValue]

theorem funct7Field_eq_ok {m : String} {format : Format} {entry : List (Value × Value)}
    {o : Option Int} :
    funct7Field m format entry = .ok o ↔ givenValue? entry "funct7" = o.map Value.int ∧
      (∀ n ∈ o, 0 ≤ n ∧ n ≤ 0x7F) ∧ (format.hasFunct7 = true → o.isSome = true) := by
  rw [funct7Field]
  cases givenValue? entry "funct7" with
  | none => cases o <;> cases format.hasFunct7 <;> simp [TableFault.fail]
  | some v =>
    simp only [bind_eq_ok, pure_eq_ok, boundedInt_eq_ok]
    cases o with
    | none => simp
    | some n => simp

end InstructionTable

/-- The constants of the instruction are those that the entry gives. -/
structure Instruction.IsGivenBy (i : Instruction) (entry : List (Value × Value)) : Prop where
  opcode : Value.get? "opcode" entry = some (.int i.opcode)
  funct3 : (InstructionTable.givenValue? entry "funct3").map FunctionCode.ofValue = i.funct3
  funct7 : InstructionTable.givenValue? entry "funct7" = i.funct7.map Value.int

namespace InstructionTable

/-- **The entry of an instruction** is read if it gives all constants, each within its field, and an
opcode that has a format. -/
theorem instructionEntry_eq_ok {formats : List (Int × Format)} {m : String} {v : Value}
    {i : Instruction} :
    instructionEntry formats m v = .ok i ↔ ∃ entry, v = .map entry ∧ i.IsGivenBy entry ∧
      i.WellFormed ∧ formats.lookup i.opcode = some i.format := by
  constructor
  · intro h
    cases v
    case map entry =>
      rw [instructionEntry] at h
      split at h
      · cases h
      · rename_i code hcode
        obtain ⟨opcode, hopcode, hfields⟩ := bind_eq_ok.mp h
        obtain ⟨rfl, hlow, hhigh⟩ := boundedInt_eq_ok.mp hopcode
        split at hfields
        · cases hfields
        · rename_i format hformat
          simp only [bind_eq_ok, pure_eq_ok, funct3Field_eq_ok, funct7Field_eq_ok] at hfields
          obtain ⟨funct3, ⟨h₃, hneeded₃⟩, funct7, ⟨h₇, hbounds, hneeded₇⟩, rfl⟩ := hfields
          exact ⟨entry, rfl, ⟨hcode, h₃, h₇⟩, ⟨hlow, hhigh, hneeded₃, hbounds, hneeded₇⟩, hformat⟩
    all_goals cases h
  · rintro ⟨entry, rfl, hgiven, hwell, hformat⟩
    have hopcode : boundedInt (m ++ ".opcode") 0 0x7F (.int i.opcode) = .ok i.opcode :=
      boundedInt_eq_ok.mpr ⟨rfl, hwell.opcode_nonneg, hwell.opcode_le⟩
    rw [instructionEntry, hgiven.opcode]
    refine bind_eq_ok.mpr ⟨i.opcode, hopcode, ?_⟩
    rw [hformat]
    simp only [bind_eq_ok, pure_eq_ok, funct3Field_eq_ok, funct7Field_eq_ok]
    exact ⟨i.funct3, ⟨hgiven.funct3, hwell.funct3⟩, i.funct7,
      ⟨hgiven.funct7, hwell.funct7, hwell.isSome_funct7⟩, rfl⟩

/-- The entry of `instructions` gives the mnemonic, up to case, and the instruction. -/
inductive IsEntryOf (formats : List (Int × Format)) : Value × Value → String × Instruction → Prop
  | intro {text : String} {entry : List (Value × Value)} {i : Instruction}
    (given : i.IsGivenBy entry) (wellFormed : i.WellFormed)
    (format : formats.lookup i.opcode = some i.format) :
    IsEntryOf formats (.str text, .map entry) (lowercase text, i)

/-- A mnemonic that is not yet known is apart from those that are. -/
theorem nodup_append_new {known : List (String × Instruction)} {p : String × Instruction}
    (hknown : (known.map Prod.fst).Nodup) :
    ((known ++ [p]).map Prod.fst).Nodup ↔ ¬ Dictionary.contains p.1 known = true := by
  rw [Dictionary.contains_iff, List.map_append, List.map_singleton, List.nodup_append',
    List.disjoint_singleton]
  exact ⟨fun h => h.2.2, fun h => ⟨hknown, List.nodup_singleton p.1, h⟩⟩

/-- An entry is read if its mnemonic is not known, and the entries after it are read when it is. -/
theorem instructionEntries_cons_eq_ok {formats : List (Int × Format)} {e : Value × Value}
    {rest : List (Value × Value)} {known instructions : List (String × Instruction)} :
    instructionEntries formats known (e :: rest) = .ok instructions ↔
      ∃ p, IsEntryOf formats e p ∧ ¬ Dictionary.contains p.1 known = true ∧
        instructionEntries formats (known ++ [p]) rest = .ok instructions := by
  constructor
  · intro h
    obtain ⟨key, value⟩ := e
    cases key
    case str text =>
      rw [instructionEntries] at h
      split at h
      · cases h
      · rename_i hnew
        obtain ⟨i, hi, hrest⟩ := bind_eq_ok.mp h
        obtain ⟨entry, rfl, hgiven, hwell, hformat⟩ := instructionEntry_eq_ok.mp hi
        exact ⟨_, .intro hgiven hwell hformat, hnew, hrest⟩
    all_goals cases h
  · rintro ⟨_, @⟨text, entry, i, hgiven, hwell, hformat⟩, hnew, hrest⟩
    have hi : instructionEntry formats (lowercase text) (.map entry) = .ok i :=
      instructionEntry_eq_ok.mpr ⟨entry, rfl, hgiven, hwell, hformat⟩
    rw [instructionEntries, if_neg hnew]
    exact bind_eq_ok.mpr ⟨i, hi, hrest⟩

/-- **The entries of instructions** are read if each of them is and no two mnemonics are the same up
to case. Those read come after those already known. -/
theorem instructionEntries_eq_ok {formats : List (Int × Format)} {entries : List (Value × Value)}
    {known instructions : List (String × Instruction)} (hknown : (known.map Prod.fst).Nodup) :
    instructionEntries formats known entries = .ok instructions ↔
      ∃ added, instructions = known ++ added ∧ List.Forall₂ (IsEntryOf formats) entries added ∧
        (instructions.map Prod.fst).Nodup := by
  induction entries generalizing known with
  | nil =>
    rw [instructionEntries, Except.ok.injEq]
    constructor
    · rintro rfl
      exact ⟨[], (List.append_nil _).symm, .nil, hknown⟩
    · rintro ⟨added, rfl, ⟨⟩, -⟩
      exact (List.append_nil _).symm
  | cons e rest ih =>
    rw [instructionEntries_cons_eq_ok]
    constructor
    · rintro ⟨p, hp, hnew, hrest⟩
      obtain ⟨added, rfl, hadded, hnodup⟩ := (ih ((nodup_append_new hknown).mpr hnew)).mp hrest
      exact ⟨p :: added, (List.append_cons ..).symm, .cons hp hadded, hnodup⟩
    · rintro ⟨_, rfl, hadded, hnodup⟩
      cases hadded with
      | @cons _ p _ added hp hrest =>
        -- all mnemonics are distinct, so those up to this one are
        have hfront : ((known ++ [p]).map Prod.fst).Nodup := by
          rw [List.append_cons, List.map_append] at hnodup
          exact hnodup.of_append_left
        exact ⟨p, hp, (nodup_append_new hknown).mp hfront,
          (ih hfront).mpr ⟨added, List.append_cons .., hrest, hnodup⟩⟩

theorem instructionEntries_nil_eq_ok {formats : List (Int × Format)}
    {entries : List (Value × Value)} {instructions : List (String × Instruction)} :
    instructionEntries formats [] entries = .ok instructions ↔
      List.Forall₂ (IsEntryOf formats) entries instructions ∧
        (instructions.map Prod.fst).Nodup := by
  have hnil : (([] : List (String × Instruction)).map Prod.fst).Nodup := List.nodup_nil
  simp [instructionEntries_eq_ok hnil]

/-! ### Tables -/

/-- The mapping describes a table: it has the given formats and instructions, and the name if it has
any. -/
structure Describes (table : List (Value × Value)) (name : String) (formats : List (Int × Format))
    (instructions : List (String × Instruction)) : Prop where
  name_eq : Value.get? "name" table = some (.str name) ∨
    Value.get? "name" table = none ∧ name = defaultName
  formats_eq : Value.get? "formats" table = some (.map (formats.map formatLine))
  formats_ne_nil : formats ≠ []
  opcode_bounds : ∀ p ∈ formats, 0 ≤ p.1 ∧ p.1 ≤ 0x7F
  entries : ∃ entries, Value.get? "instructions" table = some (.map entries) ∧
    List.Forall₂ (IsEntryOf formats) entries instructions
  instructions_ne_nil : instructions ≠ []
  nodup : (instructions.map Prod.fst).Nodup

theorem ne_nil_of_forall₂ {formats : List (Int × Format)} {entries : List (Value × Value)}
    {instructions : List (String × Instruction)}
    (h : List.Forall₂ (IsEntryOf formats) entries instructions) :
    entries ≠ [] ↔ instructions ≠ [] := by
  cases h <;> simp

/-- A mapping describes what the readers of its parts read. -/
theorem describes_iff {table : List (Value × Value)} {name : String}
    {formats : List (Int × Format)} {instructions : List (String × Instruction)} :
    Describes table name formats instructions ↔ nameField table = .ok name ∧
      ∃ lines, partEntries table "formats" = .ok lines ∧ lines.mapM formatEntry = .ok formats ∧
        ∃ entries, partEntries table "instructions" = .ok entries ∧
          instructionEntries formats [] entries = .ok instructions := by
  simp only [nameField_eq_ok, partEntries_eq_ok, mapM_formatEntry_eq_ok,
    instructionEntries_nil_eq_ok]
  constructor
  · rintro ⟨hname, hformats, hne, hbounds, ⟨entries, hentries, hlines⟩, hne', hnodup⟩
    exact ⟨hname, _, ⟨hformats, by simpa using hne⟩, ⟨rfl, hbounds⟩, entries,
      ⟨hentries, (ne_nil_of_forall₂ hlines).mpr hne'⟩, hlines, hnodup⟩
  · rintro ⟨hname, _, ⟨hformats, hne⟩, ⟨rfl, hbounds⟩, entries, ⟨hentries, hne'⟩, hlines, hnodup⟩
    exact ⟨hname, hformats, by simpa using hne, hbounds, ⟨entries, hentries, hlines⟩,
      (ne_nil_of_forall₂ hlines).mp hne', hnodup⟩

/-- **The reader of tables** puts the parts together that the value describes. -/
theorem ofYaml_eq_ok {v : Value} {t : InstructionTable} :
    ofYaml v = .ok t ↔ ∃ table name formats instructions, v = .map table ∧
      Describes table name formats instructions ∧ ofLists name formats instructions = .ok t := by
  constructor
  · intro h
    cases v
    case map table =>
      simp only [ofYaml, bind_eq_ok] at h
      obtain ⟨name, hname, lines, hlines, formats, hformats, entries, hentries, instructions,
        hinstructions, h⟩ := h
      have hdescribes := describes_iff.mpr
        ⟨hname, lines, hlines, hformats, entries, hentries, hinstructions⟩
      refine ⟨table, name, formats, instructions, rfl, hdescribes, ?_⟩
      split at h
      · cases h
        assumption
      · cases h
    all_goals cases h
  · rintro ⟨table, name, formats, instructions, rfl, h, hlists⟩
    obtain ⟨hname, lines, hlines, hformats, entries, hentries, hinstructions⟩ := describes_iff.mp h
    simp only [ofYaml, bind_eq_ok]
    refine ⟨name, hname, lines, hlines, formats, hformats, entries, hentries, instructions,
      hinstructions, ?_⟩
    rw [hlists]

/-! ### Parts that go together -/

/-- In two lists that go together, every element of the second has one of the first. -/
theorem exists_of_forall₂ {α β : Type} {R : α → β → Prop} {l : List α} {l' : List β}
    (h : List.Forall₂ R l l') : ∀ b ∈ l', ∃ a, R a b := by
  induction h with
  | nil => exact fun _ hb => absurd hb List.not_mem_nil
  | cons hab _ ih => exact List.forall_mem_cons.mpr ⟨⟨_, hab⟩, ih⟩

namespace Describes

variable {table : List (Value × Value)} {name : String} {formats : List (Int × Format)}
  {instructions : List (String × Instruction)}

theorem exists_isEntryOf (h : Describes table name formats instructions) :
    ∀ p ∈ instructions, ∃ e, IsEntryOf formats e p := by
  obtain ⟨entries, -, hlines⟩ := h.entries
  exact exists_of_forall₂ hlines

theorem wellFormed (h : Describes table name formats instructions) :
    ∀ p ∈ instructions, p.2.WellFormed := by
  intro p hp
  obtain ⟨e, ⟨-, hwell, -⟩⟩ := h.exists_isEntryOf p hp
  exact hwell

theorem lookup_opcode (h : Describes table name formats instructions) :
    ∀ p ∈ instructions, formats.lookup p.2.opcode = some p.2.format := by
  intro p hp
  obtain ⟨e, ⟨-, -, hformat⟩⟩ := h.exists_isEntryOf p hp
  exact hformat

theorem lowercase_eq (h : Describes table name formats instructions) :
    ∀ p ∈ instructions, lowercase p.1 = p.1 := by
  intro p hp
  obtain ⟨e, ⟨-, -, -⟩⟩ := h.exists_isEntryOf p hp
  exact lowercase_lowercase _

end Describes

/-- Lists of distinct keys are kept as they are. -/
theorem ofLists_eq_ok {name : String} {formats : List (Int × Format)}
    {instructions : List (String × Instruction)} (hformats : (formats.map Prod.fst).Nodup)
    (hnodup : (instructions.map Prod.fst).Nodup)
    (hlower : ∀ p ∈ instructions, lowercase p.1 = p.1)
    (hlookup : ∀ p ∈ instructions, formats.lookup p.2.opcode = some p.2.format) :
    ofLists name formats instructions = .ok ⟨name, formats, instructions, hlookup⟩ := by
  have hmap : instructions.map (fun p => (lowercase p.1, p.2)) = instructions := by
    conv_rhs => rw [← List.map_id instructions]
    exact List.map_congr_left fun p hp => Prod.ext (hlower p hp) rfl
  rw [ofLists]
  split
  · rename_i p hp
    rw [Dictionary.ofList_eq_self hformats, Dictionary.ofList_eq_self hnodup] at hp
    have hmismatch := List.find?_some hp
    simp [hlookup p (List.mem_of_find?_eq_some hp)] at hmismatch
  · simp only [Dictionary.ofList_eq_self hformats, Dictionary.ofList_eq_self hnodup, hmap]

end InstructionTable

end RiscvAssembler
