import RiscvAssembler.Table.Basic
import RiscvAssembler.Yaml.Document

/-!
# Tables from YAML

A table in YAML is a mapping with the formats of opcodes under `formats`, the instructions under
`instructions`, and optionally a `name`. The name is checked first, then the formats and then the
instructions, the entries of each in order; the first fault found is the one reported.

## Main definitions

* `TableFault`, `LoadFailure`: what can be wrong with a table, and why there may be none.
* `InstructionTable.ofYaml`: the table that a YAML value describes.
* `InstructionTable.ofText`: the table that a YAML text describes.
-/

namespace RiscvAssembler

open Text
open Yaml (Value)

/-- What can be wrong with a table. -/
inductive TableFault
  | notYaml
  | notMapping
  | nameNotText
  | missingPart (part : String)
  | emptyPart (part : String)
  | notInteger (what : String) (low high : Int)
  | unknownFormat (opcode : Int) (shown : String)
  | mnemonicNotText (shown : String)
  | duplicateMnemonic (mnemonic : String)
  | entryNotMapping (mnemonic : String)
  | missingField (mnemonic field : String)
  | noFormat (mnemonic : String) (opcode : Int)
  deriving DecidableEq, Repr

/-- The letters of the formats in alphabetical order, as a message lists them. -/
def formatLetters : String :=
  String.intercalate ", " ((Format.all.map Format.letter).mergeSort fun a b => a ≤ b)

/-- The wording of a fault. -/
def TableFault.message : TableFault → String
  | notYaml => Yaml.Problem.malformed.message
  | notMapping => "Instruction table must be a YAML mapping/dictionary"
  | nameNotText => "'name' must be a string"
  | missingPart part => "Missing required field '" ++ part ++ "'"
  | emptyPart part => "'" ++ part ++ "' must be a non-empty mapping"
  | notInteger what low high =>
    "'" ++ what ++ "' must be an integer in [" ++ decimal low ++ ", " ++ decimal high ++ "]"
  | unknownFormat opcode shown =>
    "formats[0x" ++ hexUpper 2 opcode ++ "]: invalid format '" ++ shown ++ "'. Valid formats: " ++
      formatLetters
  | mnemonicNotText shown => "Mnemonic " ++ shown ++ " must be a string"
  | duplicateMnemonic mnemonic => "Duplicate mnemonic '" ++ mnemonic ++ "'"
  | entryNotMapping mnemonic => "Instruction '" ++ mnemonic ++ "' must be a mapping"
  | missingField mnemonic field =>
    "Instruction '" ++ mnemonic ++ "' missing required field '" ++ field ++ "'"
  | noFormat mnemonic opcode =>
    "Instruction '" ++ mnemonic ++ "': opcode 0x" ++ hexUpper 2 opcode ++
      " has no format in 'formats'"

/-- Why a text or a value describes no table. -/
inductive LoadFailure
  | invalid (fault : TableFault)
  /-- The value under an opcode is a collection, which cannot be looked up among the formats. -/
  | formatNotScalar
  /-- The text has no value, although it may be a document. -/
  | yaml (problem : Yaml.Problem)
  /-- The parts do not go together. -/
  | mismatch (mismatch : InstructionTable.Mismatch)
  deriving Repr

/-- Fails with a fault of the table. -/
def TableFault.fail {α : Type} (fault : TableFault) : Except LoadFailure α :=
  .error (.invalid fault)

namespace InstructionTable

/-- The integer that a value is, if it lies between the bounds. -/
def boundedInt (what : String) (low high : Int) : Value → Except LoadFailure Int
  | .int n => if low ≤ n ∧ n ≤ high then .ok n else TableFault.fail (.notInteger what low high)
  | _ => TableFault.fail (.notInteger what low high)

/-! ### Formats -/

/-- A part of a table, which must be a mapping with entries. -/
def partEntries (table : List (Value × Value)) (part : String) :
    Except LoadFailure (List (Value × Value)) :=
  match Value.get? part table with
  | none => TableFault.fail (.missingPart part)
  | some (.map (entry :: rest)) => .ok (entry :: rest)
  | some _ => TableFault.fail (.emptyPart part)

/-- The format that an entry of `formats` gives an opcode. -/
def formatEntry : Value × Value → Except LoadFailure (Int × Format)
  | (key, value) => do
    let opcode ← boundedInt ("formats opcode " ++ key.shown) 0 0x7F key
    match value with
    | .str letter =>
      match Format.ofLetter? letter with
      | some f => pure (opcode, f)
      | none => TableFault.fail (.unknownFormat opcode letter)
    | value =>
      if value.isCollection then .error .formatNotScalar
      else TableFault.fail (.unknownFormat opcode value.plain)

/-! ### Instructions -/

/-- A value that is given and not null. -/
def givenValue? (entry : List (Value × Value)) (field : String) : Option Value :=
  match Value.get? field entry with
  | none | some .null => none
  | some v => some v

/-- The three-bit function code of an entry. It is checked if the format stores it, and kept as it
is otherwise. -/
def funct3Field (mnemonic : String) (format : Format) (entry : List (Value × Value)) :
    Except LoadFailure (Option FunctionCode) := do
  match givenValue? entry "funct3" with
  | none =>
    if format.hasFunct3 then TableFault.fail (.missingField mnemonic "funct3") else pure none
  | some v =>
    if format.hasFunct3 then
      let n ← boundedInt (mnemonic ++ ".funct3") 0 0x7 v
      pure (some (.code n))
    else
      match v with
      | .int n => pure (some (.code n))
      | v => pure (some (.unchecked v))

/-- The seven-bit function code of an entry. -/
def funct7Field (mnemonic : String) (format : Format) (entry : List (Value × Value)) :
    Except LoadFailure (Option Int) := do
  match givenValue? entry "funct7" with
  | none =>
    if format.hasFunct7 then TableFault.fail (.missingField mnemonic "funct7") else pure none
  | some v =>
    let n ← boundedInt (mnemonic ++ ".funct7") 0 0x7F v
    pure (some n)

/-- The instruction that an entry of `instructions` describes. -/
def instructionEntry (formats : List (Int × Format)) (mnemonic : String) (value : Value) :
    Except LoadFailure Instruction := do
  match value with
  | .map entry =>
    match Value.get? "opcode" entry with
    | none => TableFault.fail (.missingField mnemonic "opcode")
    | some v =>
      let opcode ← boundedInt (mnemonic ++ ".opcode") 0 0x7F v
      match formats.lookup opcode with
      | none => TableFault.fail (.noFormat mnemonic opcode)
      | some format =>
        let funct3 ← funct3Field mnemonic format entry
        let funct7 ← funct7Field mnemonic format entry
        pure { opcode, format, funct3, funct7 }
  | _ => TableFault.fail (.entryNotMapping mnemonic)

/-- The instructions of the entries, after those already `known`. -/
def instructionEntries (formats : List (Int × Format)) (known : List (String × Instruction)) :
    List (Value × Value) → Except LoadFailure (List (String × Instruction))
  | [] => .ok known
  | (key, value) :: rest => do
    match key with
    | .str text =>
      let mnemonic := lowercase text
      if Dictionary.contains mnemonic known then TableFault.fail (.duplicateMnemonic mnemonic)
      else
        let i ← instructionEntry formats mnemonic value
        instructionEntries formats (known ++ [(mnemonic, i)]) rest
    | key => TableFault.fail (.mnemonicNotText key.shown)

/-! ### Tables -/

/-- The name of a table that gives none. -/
def defaultName : String := "custom"

/-- The name of a table. -/
def nameField (table : List (Value × Value)) : Except LoadFailure String :=
  match Value.get? "name" table with
  | none => .ok defaultName
  | some (.str name) => .ok name
  | some _ => TableFault.fail .nameNotText

/-- The table that a YAML value describes. -/
def ofYaml : Value → Except LoadFailure InstructionTable
  | .map table => do
    let name ← nameField table
    let formats ← (← partEntries table "formats").mapM formatEntry
    let instructions ← instructionEntries formats [] (← partEntries table "instructions")
    match ofLists name formats instructions with
    | .ok t => .ok t
    | .error m => .error (.mismatch m)
  | _ => TableFault.fail .notMapping

/-- The table that a YAML text describes. -/
def ofText (text : String) : Except LoadFailure InstructionTable :=
  match Value.ofText text with
  | .ok v => ofYaml v
  | .error .malformed => TableFault.fail .notYaml
  | .error problem => .error (.yaml problem)

end InstructionTable

end RiscvAssembler
