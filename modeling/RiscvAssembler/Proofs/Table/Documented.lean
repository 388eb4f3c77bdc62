import Mathlib.Data.Set.List
import RiscvAssembler.Proofs.Table.Reading
import RiscvAssembler.Proofs.Word.Encoding
import RiscvAssembler.Proofs.Yaml.Keys

/-!
# The tables that are documented

A table has a list of formats and a list of instructions, and each field of it has a kind and a
range. What is asked of a value is stated here without the readers, one condition for each field.
The readers accept exactly the values that meet it, and the table that they return has the entries
of the value in their order. Every instruction of such a table has a word for every operand that its
field has room for.

## Main definitions

* `InstructionTable.MeetsEntry`, `InstructionTable.MeetsTable`: the conditions on an entry of
  `instructions` and on a table.
* `InstructionTable.IsDocumented`: the value is a mapping that meets the conditions.

## Main results

* `InstructionTable.isDocumented_iff_describes`: such a value describes a table.
* `InstructionTable.exists_ofText_iff`: the texts that are accepted.
* `InstructionTable.ofYaml_iff_isDocumented`: the values that are accepted, and their tables.
-/

namespace RiscvAssembler

open Text
open Yaml (Value)

namespace InstructionTable

/-! ### Conditions on values -/

/-- The value is an integer between the bounds. Truth values and floating point numbers are none. -/
def IsIntegerIn (low high : Int) (v : Value) : Prop :=
  ∃ n, v = .int n ∧ low ≤ n ∧ n ≤ high

/-- The entry of `formats` has an opcode and the letter of a format. -/
def IsFormatEntry (e : Value × Value) : Prop :=
  IsIntegerIn 0 0x7F e.1 ∧ ∃ f : Format, e.2 = .str f.letter

/-- The entry of an instruction has an opcode of the given format, and the function codes that the
format needs. -/
structure MeetsEntry (formats entry : List (Value × Value)) (opcode : Int) (f : Format) : Prop where
  get_opcode : Value.get? "opcode" entry = some (.int opcode)
  opcode_bounds : 0 ≤ opcode ∧ opcode ≤ 0x7F
  format : (.int opcode, .str f.letter) ∈ formats
  funct3 : f.hasFunct3 = true → ∃ v, Value.get? "funct3" entry = some v ∧ IsIntegerIn 0 7 v
  funct7 : ∀ v, Value.get? "funct7" entry = some v → v ≠ .null → IsIntegerIn 0 0x7F v
  funct7_needed : f.hasFunct7 = true → ∃ v, Value.get? "funct7" entry = some v ∧ v ≠ .null

/-- The mapping has a name or none, and under `formats` and `instructions` the given entries. -/
structure MeetsTable (table formats instructions : List (Value × Value)) : Prop where
  name : ∀ v, Value.get? "name" table = some v → ∃ name, v = .str name
  get_formats : Value.get? "formats" table = some (.map formats)
  formats_ne_nil : formats ≠ []
  format : ∀ e ∈ formats, IsFormatEntry e
  get_instructions : Value.get? "instructions" table = some (.map instructions)
  instructions_ne_nil : instructions ≠ []
  /-- The mnemonics are texts that are distinct also in lower case. -/
  mnemonics : ∃ names : List String,
    instructions.map Prod.fst = names.map Value.str ∧ (names.map lowercase).Nodup
  instruction : ∀ e ∈ instructions, ∃ entry opcode f,
    e.2 = .map entry ∧ MeetsEntry formats entry opcode f

/-- The value is a mapping that meets the conditions on a table. -/
def IsDocumented (v : Value) : Prop :=
  ∃ table formats instructions, v = .map table ∧ MeetsTable table formats instructions

theorem exists_nameField_iff {table : List (Value × Value)} :
    (∃ name, nameField table = .ok name) ↔
      ∀ v, Value.get? "name" table = some v → ∃ name, v = .str name := by
  simp only [nameField_eq_ok]
  cases Value.get? "name" table with
  | none => simp
  | some v => simp

/-! ### Entries of instructions -/

theorem givenValue?_eq_some {entry : List (Value × Value)} {field : String} {v : Value} :
    givenValue? entry field = some v ↔ Value.get? field entry = some v ∧ v ≠ .null := by
  rw [givenValue?]
  cases Value.get? field entry with
  | none => simp
  | some w => cases w <;> simp <;> rintro rfl <;> simp

/-- An entry that gives an instruction meets the conditions. -/
theorem meetsEntry_of_isGivenBy {formats : List (Int × Format)} {entry : List (Value × Value)}
    {i : Instruction} (h : i.IsGivenBy entry) (hwell : i.WellFormed)
    (hformat : formats.lookup i.opcode = some i.format) :
    MeetsEntry (formats.map formatLine) entry i.opcode i.format where
  get_opcode := h.opcode
  opcode_bounds := ⟨hwell.opcode_nonneg, hwell.opcode_le⟩
  format := List.mem_map_of_mem (Dictionary.mem_of_lookup hformat)
  funct3 hneeded := by
    obtain ⟨f, hf, hbits⟩ := hwell.funct3 hneeded
    obtain ⟨v, hv, rfl⟩ := Option.map_eq_some_iff.mp (h.funct3.trans hf)
    exact ⟨v, (givenValue?_eq_some.mp hv).1, FunctionCode.isThreeBit_ofValue.mp hbits⟩
  funct7 v hv hnull := by
    have hgiven := h.funct7.symm.trans (givenValue?_eq_some.mpr ⟨hv, hnull⟩)
    obtain ⟨n, hn, rfl⟩ := Option.map_eq_some_iff.mp hgiven
    exact ⟨n, rfl, hwell.funct7 n hn⟩
  funct7_needed hneeded := by
    obtain ⟨n, hn⟩ := Option.isSome_iff_exists.mp (hwell.isSome_funct7 hneeded)
    have hgiven := h.funct7
    rw [hn] at hgiven
    exact ⟨_, givenValue?_eq_some.mp hgiven⟩

/-- An entry that meets the conditions gives an instruction, if each opcode has one format. -/
theorem exists_isGivenBy_of_meetsEntry {formats : List (Int × Format)}
    (hnodup : (formats.map Prod.fst).Nodup) {entry : List (Value × Value)} {opcode : Int}
    {f : Format} (h : MeetsEntry (formats.map formatLine) entry opcode f) :
    ∃ i : Instruction, i.IsGivenBy entry ∧ i.WellFormed ∧
      formats.lookup i.opcode = some i.format := by
  have hfunct7 : ∃ o : Option Int, givenValue? entry "funct7" = o.map Value.int ∧
      ∀ n ∈ o, 0 ≤ n ∧ n ≤ 0x7F := by
    cases hv : givenValue? entry "funct7" with
    | none => exact ⟨none, rfl, by simp⟩
    | some v =>
      obtain ⟨hget, hnull⟩ := givenValue?_eq_some.mp hv
      obtain ⟨n, rfl, hbounds⟩ := h.funct7 v hget hnull
      exact ⟨some n, rfl, by simpa using hbounds⟩
  obtain ⟨funct7, hgiven, hbounds⟩ := hfunct7
  have hline : (opcode, f) ∈ formats := (List.mem_map_of_injective formatLine_injective).mp h.format
  refine ⟨⟨opcode, f, (givenValue? entry "funct3").map FunctionCode.ofValue, funct7⟩,
    ⟨h.get_opcode, rfl, hgiven⟩, ⟨h.opcode_bounds.1, h.opcode_bounds.2, ?_, hbounds, ?_⟩,
    Dictionary.lookup_of_mem hnodup hline⟩
  · intro hneeded
    obtain ⟨v, hget, n, rfl, hbits⟩ := h.funct3 hneeded
    have hv : givenValue? entry "funct3" = some (.int n) :=
      givenValue?_eq_some.mpr ⟨hget, nofun⟩
    exact ⟨.code n, by simp [hv, FunctionCode.ofValue], hbits⟩
  · intro hneeded
    obtain ⟨v, hget, hnull⟩ := h.funct7_needed hneeded
    have hsome := hgiven.symm.trans (givenValue?_eq_some.mpr ⟨hget, hnull⟩)
    obtain ⟨n, rfl, -⟩ := Option.map_eq_some_iff.mp hsome
    rfl

/-! ### Tables -/

theorem map_fst_of_forall₂ {formats : List (Int × Format)} {entries : List (Value × Value)}
    {instructions : List (String × Instruction)}
    (h : List.Forall₂ (IsEntryOf formats) entries instructions) :
    ∃ names : List String, entries.map Prod.fst = names.map Value.str ∧
      instructions.map Prod.fst = names.map lowercase := by
  induction h with
  | nil => exact ⟨[], rfl, rfl⟩
  | cons hentry _ ih =>
    obtain ⟨names, hkeys, hmnemonics⟩ := ih
    cases hentry with
    | @intro text entry i hgiven hwell hformat =>
      exact ⟨text :: names, by simp [hkeys], by simp [hmnemonics]⟩

/-- Opcodes that are keys of a mapping are different. -/
theorem nodup_of_keysApart {formats : List (Int × Format)}
    (h : (Value.map (formats.map formatLine)).KeysApart) : (formats.map Prod.fst).Nodup := by
  have hdifferent := (Value.keysApart_map.mp h).1
  rw [List.pairwise_map] at hdifferent
  refine List.pairwise_map.mpr (hdifferent.imp fun {p q} hkeys heq => ?_)
  have hsame : Value.sameKey (.int p.1) (.int q.1) = true := by
    rw [heq]
    exact beq_self_eq_true q.1
  rw [formatLine, formatLine, hsame] at hkeys
  cases hkeys

theorem keysApart_of_get? {table : List (Value × Value)} (h : (Value.map table).KeysApart)
    {key : String} {v : Value} (hv : Value.get? key table = some v) : v.KeysApart := by
  obtain ⟨e, he, rfl⟩ := Option.map_eq_some_iff.mp hv
  exact (Value.keysApart_map.mp h).2.2 e (List.mem_of_find?_eq_some he)

/-- A mapping that describes a table meets the conditions. -/
theorem meetsTable_of_describes {table : List (Value × Value)} {name : String}
    {formats : List (Int × Format)} {instructions : List (String × Instruction)}
    (h : Describes table name formats instructions) :
    ∃ entries, MeetsTable table (formats.map formatLine) entries := by
  obtain ⟨entries, hentries, hlines⟩ := h.entries
  obtain ⟨names, hkeys, hmnemonics⟩ := map_fst_of_forall₂ hlines
  refine ⟨entries, ⟨fun v hv => ?_, h.formats_eq, by simpa using h.formats_ne_nil, fun e he => ?_,
    hentries, (ne_nil_of_forall₂ hlines).mpr h.instructions_ne_nil,
    ⟨names, hkeys, hmnemonics ▸ h.nodup⟩, fun e he => ?_⟩⟩
  · exact exists_nameField_iff.mp ⟨name, (describes_iff.mp h).1⟩ v hv
  · obtain ⟨p, hp, rfl⟩ := List.mem_map.mp he
    exact ⟨⟨p.1, rfl, h.opcode_bounds p hp⟩, p.2, rfl⟩
  · obtain ⟨p, hentry⟩ := exists_of_forall₂ (List.Forall₂.flip hlines) e he
    cases hentry with
    | @intro text entry i hgiven hwell hformat =>
      exact ⟨entry, i.opcode, i.format, rfl, meetsEntry_of_isGivenBy hgiven hwell hformat⟩

/-- What each element of a list goes together with makes a list. -/
theorem exists_forall₂ {α β : Type} {R : α → β → Prop} {l : List α} (h : ∀ a ∈ l, ∃ b, R a b) :
    ∃ l', List.Forall₂ R l l' := by
  induction l with
  | nil => exact ⟨[], .nil⟩
  | cons a l ih =>
    obtain ⟨⟨b, hb⟩, hl⟩ := List.forall_mem_cons.mp h
    obtain ⟨l', hl'⟩ := ih hl
    exact ⟨b :: l', .cons hb hl'⟩

/-- A mapping that meets the conditions describes a table, if its keys are apart. -/
theorem exists_describes_of_meetsTable {table lines entries : List (Value × Value)}
    (hapart : (Value.map table).KeysApart) (h : MeetsTable table lines entries) :
    ∃ name formats instructions, Describes table name formats instructions := by
  have hlines : lines ∈ Set.range (List.map formatLine) := by
    rw [Set.range_list_map]
    intro e he
    obtain ⟨⟨n, hkey, -⟩, f, hvalue⟩ := h.format e he
    exact ⟨(n, f), Prod.ext hkey.symm hvalue.symm⟩
  obtain ⟨formats, rfl⟩ := hlines
  -- an opcode under two keys would have the first format, whatever the entry in question says
  have hopcodes := nodup_of_keysApart (keysApart_of_get? hapart h.get_formats)
  obtain ⟨names, hkeys, hnames⟩ := h.mnemonics
  have hentry : ∀ e ∈ entries, ∃ p, IsEntryOf formats e p := by
    rintro ⟨key, value⟩ he
    have hkey : key ∈ names.map Value.str := hkeys ▸ List.mem_map_of_mem he
    obtain ⟨text, -, rfl⟩ := List.mem_map.mp hkey
    obtain ⟨entry, opcode, f, rfl, hmeets⟩ := h.instruction _ he
    obtain ⟨i, hgiven, hwell, hformat⟩ := exists_isGivenBy_of_meetsEntry hopcodes hmeets
    exact ⟨_, .intro hgiven hwell hformat⟩
  obtain ⟨instructions, hread⟩ := exists_forall₂ hentry
  -- the mnemonics that were read are those that are distinct in lower case
  obtain ⟨names', hkeys', hmnemonics⟩ := map_fst_of_forall₂ hread
  have hsame : names' = names := by
    refine List.map_injective_iff.mpr (fun s t h => ?_) (hkeys'.symm.trans hkeys)
    exact Value.str.inj h
  obtain ⟨name, hname⟩ := exists_nameField_iff.mpr h.name
  refine ⟨name, formats, instructions, nameField_eq_ok.mp hname, h.get_formats, ?_, fun p hp => ?_,
    ⟨entries, h.get_instructions, hread⟩, (ne_nil_of_forall₂ hread).mp h.instructions_ne_nil,
    hmnemonics ▸ hsame ▸ hnames⟩
  · simpa using h.formats_ne_nil
  · obtain ⟨⟨n, hkey, hbounds⟩, -⟩ := h.format _ (List.mem_map_of_mem hp)
    cases hkey
    exact hbounds

/-! ### Accepted values -/

theorem isDocumented_iff_describes {v : Value} (hv : v.KeysApart) :
    IsDocumented v ↔ ∃ table name formats instructions, v = .map table ∧
      Describes table name formats instructions := by
  constructor
  · rintro ⟨table, formats, entries, rfl, h⟩
    obtain ⟨name, formats, instructions, hdescribes⟩ := exists_describes_of_meetsTable hv h
    exact ⟨table, name, formats, instructions, rfl, hdescribes⟩
  · rintro ⟨table, name, formats, instructions, rfl, h⟩
    obtain ⟨entries, hmeets⟩ := meetsTable_of_describes h
    exact ⟨table, _, entries, rfl, hmeets⟩

theorem ofLists_of_describes {table : List (Value × Value)} {name : String}
    {formats : List (Int × Format)} {instructions : List (String × Instruction)}
    (hapart : (Value.map table).KeysApart) (h : Describes table name formats instructions) :
    ofLists name formats instructions = .ok ⟨name, formats, instructions, h.lookup_opcode⟩ := by
  have hopcodes := nodup_of_keysApart (keysApart_of_get? hapart h.formats_eq)
  exact ofLists_eq_ok hopcodes h.nodup h.lowercase_eq h.lookup_opcode

/-- The table that is read from a value is the one that the value describes. -/
theorem ofYaml_eq_ok_iff_describes {v : Value} (hv : v.KeysApart) {t : InstructionTable} :
    ofYaml v = .ok t ↔
      ∃ table, v = .map table ∧ Describes table t.name t.formats t.instructions := by
  rw [ofYaml_eq_ok]
  constructor
  · rintro ⟨table, name, formats, instructions, rfl, h, hlists⟩
    cases (ofLists_of_describes hv h).symm.trans hlists
    exact ⟨table, rfl, h⟩
  · rintro ⟨table, rfl, h⟩
    exact ⟨table, t.name, t.formats, t.instructions, rfl, h, ofLists_of_describes hv h⟩

/-- A value is accepted exactly if it meets the conditions. -/
theorem exists_ofYaml_iff {v : Value} (hv : v.KeysApart) :
    (∃ t, ofYaml v = .ok t) ↔ IsDocumented v := by
  rw [isDocumented_iff_describes hv]
  constructor
  · rintro ⟨t, ht⟩
    obtain ⟨table, htable, h⟩ := (ofYaml_eq_ok_iff_describes hv).mp ht
    exact ⟨table, t.name, t.formats, t.instructions, htable, h⟩
  · rintro ⟨table, name, formats, instructions, htable, h⟩
    exact ⟨⟨name, formats, instructions, h.lookup_opcode⟩,
      (ofYaml_eq_ok_iff_describes hv).mpr ⟨table, htable, h⟩⟩

theorem ofText_eq_ofYaml {text : String} {v : Value} (h : Value.ofText text = .ok v) :
    ofText text = ofYaml v := by
  rw [ofText, h]

/-- **A text is accepted** exactly if its value meets the conditions. Keys that are the same have
become one by then. -/
theorem exists_ofText_iff {text : String} {v : Value} (h : Value.ofText text = .ok v) :
    (∃ t, ofText text = .ok t) ↔ IsDocumented v := by
  rw [ofText_eq_ofYaml h]
  exact exists_ofYaml_iff (Value.keysApart_of_ofText h)

/-- An instruction with all constants has a word, or its immediate is refused. -/
theorem encode_of_wellFormed {i : Instruction} (hi : i.WellFormed) (o : Operands) :
    (∃ w, i.encode o = .ok w ∧ Below 32 w) ∨
      ∃ f, i.encode o = .error (.fault f) ∧ f.family = .immediateRange := by
  cases hcheck : i.checkImmediate o.imm with
  | ok _ =>
    refine Or.inl ⟨(i.operandFields o).pack i.opcode, ?_, Fields.below_pack _ _⟩
    rw [hi.encode_eq, hcheck]
    rfl
  | error f =>
    exact Or.inr ⟨f, hi.encode_eq_error hcheck, Instruction.family_of_checkImmediate hcheck⟩

/-- The value of a table with a name, its mnemonic in capitals. -/
def namedValue : Value :=
  .map [(.str "name", .str "tiny"),
    (.str "formats", .map [(.int 51, .str "R"), (.int 19, .str "I")]),
    (.str "instructions",
      .map [(.str "ADDI", .map [(.str "opcode", .int 19), (.str "funct3", .int 0)])])]

end InstructionTable

end RiscvAssembler
