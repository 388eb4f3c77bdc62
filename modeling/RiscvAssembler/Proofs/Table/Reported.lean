import Mathlib
import RiscvAssembler.Proofs.Table.Documented

/-!
# Failures of the reader of tables

A value that describes no table is refused for a fault of it. There is one exception: a collection
under an opcode cannot be looked up among the formats, so if the reader comes to one it fails without
a fault. It comes to it if the name is right and all earlier entries of `formats` are.

## Main definitions

* `InstructionTable.Reported`: a reader has an answer or fails for a fault.
* `InstructionTable.MeetsCollection`: the reader comes to a collection under an opcode.

## Main results

* `InstructionTable.reported_instructionEntries`: entries of instructions are refused for faults.
* `InstructionTable.reported_ofYaml`: so are values in which no collection is met.
* `InstructionTable.reported_ofText_iff`: so are texts of such values, and no others.
-/

namespace RiscvAssembler

open Yaml (Value)

namespace InstructionTable

/-- The reader has an answer, or it fails for a fault of the table. -/
def Reported {α : Type} (x : Except LoadFailure α) : Prop :=
  ∀ failure, x = .error failure → ∃ fault, failure = .invalid fault

namespace Reported

variable {α β : Type}

theorem ok (a : α) : Reported (.ok a) :=
  fun _ h => nomatch h

theorem fail (fault : TableFault) : Reported (α := α) fault.fail := by
  rintro failure ⟨⟩
  exact ⟨fault, rfl⟩

theorem bind {x : Except LoadFailure α} {f : α → Except LoadFailure β} (hx : Reported x)
    (hf : ∀ a, x = .ok a → Reported (f a)) : Reported (x >>= f) := by
  intro failure h
  rcases bind_eq_error.mp h with h | ⟨a, ha, h⟩
  · exact hx failure h
  · exact hf a ha failure h

end Reported

/-! ### Readers of parts -/

theorem reported_boundedInt {what : String} {low high : Int} {v : Value} :
    Reported (boundedInt what low high v) := by
  cases v
  case int n =>
    rw [boundedInt]
    split
    · exact .ok n
    · exact .fail _
  all_goals exact .fail _

theorem reported_nameField {table : List (Value × Value)} : Reported (nameField table) := by
  rw [nameField]
  split
  · exact .ok _
  · exact .ok _
  · exact .fail _

theorem reported_partEntries {table : List (Value × Value)} {part : String} :
    Reported (partEntries table part) := by
  rw [partEntries]
  split
  · exact .fail _
  · exact .ok _
  · exact .fail _

theorem reported_funct3Field {m : String} {f : Format} {entry : List (Value × Value)} :
    Reported (funct3Field m f entry) := by
  rw [funct3Field]
  split
  · split
    · exact .fail _
    · exact .ok _
  · split
    · exact .bind reported_boundedInt fun n _ => .ok _
    · split <;> exact .ok _

theorem reported_funct7Field {m : String} {f : Format} {entry : List (Value × Value)} :
    Reported (funct7Field m f entry) := by
  rw [funct7Field]
  split
  · split
    · exact .fail _
    · exact .ok _
  · exact .bind reported_boundedInt fun n _ => .ok _

theorem reported_instructionEntry {formats : List (Int × Format)} {m : String} {v : Value} :
    Reported (instructionEntry formats m v) := by
  cases v
  case map entry =>
    rw [instructionEntry]
    split
    · exact .fail _
    · refine .bind reported_boundedInt fun opcode _ => ?_
      split
      · exact .fail _
      · exact .bind reported_funct3Field fun funct3 _ =>
          .bind reported_funct7Field fun funct7 _ => .ok _
  all_goals exact .fail _

theorem reported_instructionEntries {formats : List (Int × Format)}
    {known : List (String × Instruction)} {entries : List (Value × Value)} :
    Reported (instructionEntries formats known entries) := by
  induction entries generalizing known with
  | nil => exact .ok known
  | cons e rest ih =>
    obtain ⟨key, value⟩ := e
    cases key
    case str text =>
      rw [instructionEntries]
      split
      · exact .fail _
      · exact .bind reported_instructionEntry fun i _ => ih
    all_goals exact .fail _

/-! ### Collections under opcodes -/

/-- The entry has an opcode, and a collection in place of a format. -/
def HoldsCollection (e : Value × Value) : Prop :=
  IsIntegerIn 0 0x7F e.1 ∧ e.2.isCollection = true

/-- Among the entries there is a collection under an opcode, and those before it are right. -/
inductive EntriesMeetCollection : List (Value × Value) → Prop
  | here {e : Value × Value} {rest : List (Value × Value)} (h : HoldsCollection e) :
    EntriesMeetCollection (e :: rest)
  | later {e : Value × Value} {rest : List (Value × Value)} (h : IsFormatEntry e)
    (hrest : EntriesMeetCollection rest) : EntriesMeetCollection (e :: rest)

/-- A right entry of `formats` is read. -/
theorem isFormatEntry_iff {e : Value × Value} :
    IsFormatEntry e ↔ ∃ p, formatEntry e = .ok p := by
  simp only [formatEntry_eq_ok]
  constructor
  · rintro ⟨⟨n, hkey, hbounds⟩, f, hvalue⟩
    exact ⟨(n, f), Prod.ext hkey hvalue, hbounds⟩
  · rintro ⟨p, rfl, hbounds⟩
    exact ⟨⟨p.1, rfl, hbounds⟩, p.2, rfl⟩

theorem formatEntry_of_holdsCollection {e : Value × Value} (h : HoldsCollection e) :
    formatEntry e = .error .formatNotScalar := by
  obtain ⟨key, value⟩ := e
  obtain ⟨⟨n, hkey, hbounds⟩, hvalue⟩ := h
  refine bind_eq_error.mpr (Or.inr ⟨n, boundedInt_eq_ok.mpr ⟨hkey, hbounds⟩, ?_⟩)
  cases value <;> first | rfl | cases hvalue

theorem reported_formatEntry {e : Value × Value} (h : ¬ HoldsCollection e) :
    Reported (formatEntry e) := by
  obtain ⟨key, value⟩ := e
  rw [formatEntry]
  refine .bind reported_boundedInt fun opcode hopcode => ?_
  split
  · split
    · exact .ok _
    · exact .fail _
  · split
    · rename_i hcollection
      exact absurd ⟨⟨opcode, boundedInt_eq_ok.mp hopcode⟩, hcollection⟩ h
    · exact .fail _

theorem mapM_formatEntry_of_meetsCollection {entries : List (Value × Value)}
    (h : EntriesMeetCollection entries) :
    entries.mapM formatEntry = .error .formatNotScalar := by
  induction h with
  | here h =>
    rw [List.mapM_cons, formatEntry_of_holdsCollection h]
    rfl
  | later h _ ih =>
    obtain ⟨p, hp⟩ := isFormatEntry_iff.mp h
    rw [List.mapM_cons, hp, ih]
    rfl

theorem reported_mapM_formatEntry {entries : List (Value × Value)}
    (h : ¬ EntriesMeetCollection entries) : Reported (entries.mapM formatEntry) := by
  induction entries with
  | nil => exact .ok []
  | cons e rest ih =>
    rw [List.mapM_cons]
    refine .bind (reported_formatEntry fun hholds => h (.here hholds)) fun p hp => ?_
    have hentry : IsFormatEntry e := isFormatEntry_iff.mpr ⟨p, hp⟩
    exact .bind (ih fun hrest => h (.later hentry hrest)) fun ps _ => .ok _

/-! ### Tables -/

/-- The value is a mapping whose name is right, and a collection is met under its `formats`. -/
def MeetsCollection (v : Value) : Prop :=
  ∃ table entries, v = .map table ∧
    (∀ w, Value.get? "name" table = some w → ∃ name, w = .str name) ∧
    Value.get? "formats" table = some (.map entries) ∧ EntriesMeetCollection entries

theorem ofYaml_of_meetsCollection {v : Value} (h : MeetsCollection v) :
    ofYaml v = .error .formatNotScalar := by
  obtain ⟨table, entries, rfl, hname, hformats, hmeets⟩ := h
  obtain ⟨name, hname⟩ := exists_nameField_iff.mpr hname
  have hne : entries ≠ [] := by cases hmeets <;> exact List.cons_ne_nil _ _
  have hlines := partEntries_eq_ok.mpr ⟨hformats, hne⟩
  refine bind_eq_error.mpr (Or.inr ⟨name, hname, ?_⟩)
  refine bind_eq_error.mpr (Or.inr ⟨entries, hlines, ?_⟩)
  exact bind_eq_error.mpr (Or.inl (mapM_formatEntry_of_meetsCollection hmeets))

/-- A value is refused for a fault if no collection is met in it. -/
theorem reported_ofYaml {v : Value} (hv : v.KeysApart) (h : ¬ MeetsCollection v) :
    Reported (ofYaml v) := by
  cases v
  case map table =>
    rw [ofYaml]
    refine .bind reported_nameField fun name hname => .bind reported_partEntries fun lines hlines =>
      .bind (reported_mapM_formatEntry fun hmeets => h ?_) fun formats hformats =>
      .bind reported_partEntries fun entries hentries =>
      .bind reported_instructionEntries fun instructions hinstructions => ?_
    · exact ⟨table, lines, rfl, exists_nameField_iff.mp ⟨name, hname⟩,
        (partEntries_eq_ok.mp hlines).1, hmeets⟩
    · have hdescribes := describes_iff.mpr
        ⟨hname, lines, hlines, hformats, entries, hentries, hinstructions⟩
      rw [ofLists_of_describes hv hdescribes]
      exact .ok _
  all_goals exact .fail _

/-- **A text is refused for a fault of the table** unless a collection is met under an opcode, or the
text has a problem other than that it is no document. -/
theorem reported_ofText_iff (text : String) :
    (Reported (ofText text) ↔
      (∀ v, Value.ofText text = .ok v → ¬ MeetsCollection v) ∧
        ∀ problem, Value.ofText text = .error problem → problem = .malformed) ∧
      ∀ v, Value.ofText text = .ok v → MeetsCollection v →
        ofText text = .error .formatNotScalar := by
  have hmet : ∀ v, Value.ofText text = .ok v → MeetsCollection v →
      ofText text = .error .formatNotScalar := fun v hv h =>
    (ofText_eq_ofYaml hv).trans (ofYaml_of_meetsCollection h)
  refine ⟨⟨fun h => ⟨fun v hv hmeets => ?_, fun problem hp => ?_⟩, ?_⟩, hmet⟩
  · obtain ⟨fault, hfault⟩ := h _ (hmet v hv hmeets)
    cases hfault
  · by_contra hne
    have hfailure : ofText text = .error (.yaml problem) := by
      rw [ofText, hp]
      cases problem <;> first | rfl | exact absurd rfl hne
    obtain ⟨fault, hfault⟩ := h _ hfailure
    cases hfault
  · rintro ⟨hvalues, hproblems⟩
    cases hv : Value.ofText text with
    | ok v =>
      rw [ofText_eq_ofYaml hv]
      exact reported_ofYaml (Value.keysApart_of_ofText hv) (hvalues v hv)
    | error problem =>
      rw [ofText, hv, hproblems problem hv]
      exact .fail _

/-- A text that would describe a table, had not the letter of the format its own brackets. -/
def bracketedText : String :=
  "\x7bformats: \x7b19: [I]\x7d, instructions: \x7baddi: \x7bopcode: 19, funct3: 0\x7d\x7d\x7d"

set_option maxRecDepth 10000 in
/-- It is refused without a fault of the table. -/
theorem not_reported_bracketedText :
    ofText bracketedText = .error .formatNotScalar ∧ ¬ Reported (ofText bracketedText) := by
  have hfailure : ofText bracketedText = .error .formatNotScalar := by cbv
  refine ⟨hfailure, fun h => ?_⟩
  obtain ⟨fault, hfault⟩ := h _ hfailure
  cases hfault

end InstructionTable

end RiscvAssembler
