import RiscvAssembler.Text.Blank
import RiscvAssembler.Text.Numeral

/-!
# Faults and reports

What can be wrong with assembly text, and how it is reported. A `Fault` is a cause; a `Report` is
what the user sees: the family of the cause, its wording and, once known, the line to blame.
Operations that are handed something no source line can produce fail with a `Misuse` instead.

## Main definitions

* `Family`: the families of errors, each inside a wider one.
* `Fault`, `Fault.family`, `Fault.message`: the causes and their wording.
* `Report`, `Report.new`, `Report.locate`, `Report.render`: an error with its place.
* `Failure`: either a fault of the text or a misuse.
-/

namespace RiscvAssembler

open Text

/-- The families of assembly errors. -/
inductive Family
  | assembly
  | parsing
  | tooManyTokens
  | unknownMnemonic
  | unknownRegister
  | immediateParsing
  | operandCount
  | encoding
  | immediateRange
  | symbol
  | undefinedLabel
  | duplicateLabel
  | decoding
  deriving DecidableEq, Repr

namespace Family

/-- The next wider family; `assembly` holds all of them. -/
def parent? : Family → Option Family
  | assembly => none
  | parsing | encoding | symbol | decoding => some assembly
  | tooManyTokens | unknownMnemonic | unknownRegister | immediateParsing | operandCount =>
    some parsing
  | immediateRange => some encoding
  | undefinedLabel | duplicateLabel => some symbol

/-- The family and all wider ones, narrowest first. Families are nested three deep at most. -/
def ancestors (f : Family) : List Family :=
  match f.parent? with
  | none => [f]
  | some g => f :: g :: g.parent?.toList

/-- Every family belongs to the widest one. -/
theorem getLast?_ancestors (f : Family) : f.ancestors.getLast? = some assembly := by
  cases f <;> rfl

end Family

/-- The causes of assembly errors. -/
inductive Fault
  /-- A line has more tokens than a label and the longest instruction. -/
  | tooManyTokens (count limit : Nat)
  /-- No instruction has this name. -/
  | unknownMnemonic (name : String)
  /-- No register has this name. -/
  | unknownRegister (name : String)
  /-- An immediate has no characters. -/
  | emptyImmediate
  /-- An immediate is neither a literal nor a label name. -/
  | malformedImmediate (text : String)
  /-- A base instruction has the wrong number of operands. -/
  | operandCount (mnemonic : String) (required given : Nat)
  /-- A pseudo-instruction has the wrong number of operands. -/
  | pseudoOperandCount (name : String) (required given : Nat)
  /-- A value does not fit its field. -/
  | outOfRange (what : String) (value low high : Int) (bits : Nat)
  /-- An offset that must be even is odd. -/
  | odd (what : String) (value : Int)
  /-- A constant to load is wider than a register. -/
  | constantTooWide (value : Int)
  /-- A label is used and never defined. -/
  | undefinedLabel (name : String)
  /-- A label is defined twice. -/
  | duplicateLabel (name : String)
  /-- The table has no format for the opcode of a word. -/
  | unknownOpcode (opcode word : Int)
  deriving DecidableEq, Repr

namespace Fault

/-- The narrowest family of a fault. -/
def family : Fault → Family
  | tooManyTokens .. => .tooManyTokens
  | unknownMnemonic _ => .unknownMnemonic
  | unknownRegister _ => .unknownRegister
  | emptyImmediate | malformedImmediate _ => .immediateParsing
  | operandCount .. | pseudoOperandCount .. => .operandCount
  | outOfRange .. | odd .. | constantTooWide _ => .immediateRange
  | undefinedLabel _ => .undefinedLabel
  | duplicateLabel _ => .duplicateLabel
  | unknownOpcode .. => .decoding

/-- The wording of a fault. -/
def message : Fault → String
  | tooManyTokens count limit =>
    "Too many tokens (" ++ decimal count ++ "), at most " ++ decimal limit ++ " allowed"
  | unknownMnemonic name => "Unknown instruction: " ++ name
  | unknownRegister name => "Invalid register name: " ++ name
  | emptyImmediate => "Empty immediate value"
  | malformedImmediate text => "Invalid immediate value: " ++ text
  | operandCount mnemonic required given =>
    mnemonic ++ " requires " ++ decimal required ++ " operands, got " ++ decimal given
  | pseudoOperandCount name required given =>
    let shown := String.ofList (name.toList.map Char.toUpper)
    match required with
    | 0 => shown ++ " takes no operands, got " ++ decimal given
    | 1 => shown ++ " requires 1 operand, got " ++ decimal given
    | n => shown ++ " requires " ++ decimal n ++ " operands, got " ++ decimal given
  | outOfRange what value low high bits =>
    what ++ " value " ++ decimal value ++ " out of range [" ++ decimal low ++ ", " ++
      decimal high ++ "] for " ++ decimal bits ++ "-bit field"
  | odd what value => what ++ " must be even, got " ++ decimal value
  | constantTooWide value => "LI value " ++ decimal value ++ " does not fit in 32 bits"
  | undefinedLabel name => "Undefined label: " ++ name
  | duplicateLabel name => "Duplicate label: " ++ name
  | unknownOpcode opcode word =>
    "Unknown opcode 0x" ++ hexUpper 2 opcode ++ " in word 0x" ++ hexUpper 8 word

end Fault

/-- An error as it is shown: its family, its wording and the line it is blamed on. The error also
keeps what it shows in its arguments, which are written when it is made and when it is blamed. -/
structure Report where
  family : Family
  message : String
  lineNumber : Option Int
  lineText : Option String
  arguments : List String
  deriving DecidableEq, Repr

namespace Report

/-- The report as shown: the line number in front, the trimmed line below if it is not empty. -/
def render (report : Report) : String :=
  match report.lineNumber, report.lineText with
  | none, _ => report.message
  | some n, none => "Line " ++ decimal n ++ ": " ++ report.message
  | some n, some text =>
    if text.isEmpty then "Line " ++ decimal n ++ ": " ++ report.message
    else "Line " ++ decimal n ++ ": " ++ report.message ++ "\n  " ++ trim text

/-- Writes what the report shows now to its arguments. -/
def record (report : Report) : Report :=
  { report with arguments := [report.render] }

/-- A report that is made with a message, and with a line as far as it is known. -/
def new (family : Family) (message : String) (number : Option Int) (text : Option String) :
    Report :=
  record { family, message, lineNumber := number, lineText := text, arguments := [] }

/-- The report of a fault whose line is not known yet. -/
def ofFault (fault : Fault) : Report :=
  new fault.family fault.message none none

/-- Blames the report on a line, unless it already has a line number. -/
def locate (report : Report) (number : Option Int) (text : Option String) : Report :=
  if report.lineNumber.isSome then report
  else record { report with lineNumber := number, lineText := text }

@[simp] theorem render_of_lineNumber_eq_none {report : Report} (h : report.lineNumber = none) :
    report.render = report.message := by
  simp [render, h]

@[simp] theorem locate_of_isSome {report : Report} (h : report.lineNumber.isSome = true)
    (number : Option Int) (text : Option String) : report.locate number text = report := by
  simp [locate, h]

@[simp] theorem message_locate (report : Report) (number : Option Int) (text : Option String) :
    (report.locate number text).message = report.message := by
  unfold locate; split <;> rfl

end Report

/-- A call that breaks the contract of an operation. -/
inductive Misuse
  /-- The format needs a function field that the instruction lacks, or an operand not given. -/
  | missingField
  /-- There is no mnemonic. -/
  | noMnemonic
  deriving DecidableEq, Repr

/-- Why an operation gave no answer: something wrong with the text, or a misuse. -/
inductive Failure (ε : Type)
  | fault (error : ε)
  | misuse (cause : Misuse)
  deriving DecidableEq, Repr

/-- Fails with a fault. -/
def Fault.fail {α : Type} (fault : Fault) : Except (Failure Fault) α :=
  .error (.fault fault)

/-- An answer that can only fail with a fault, among those that can also be misused. -/
def liftFault {α : Type} : Except Fault α → Except (Failure Fault) α
  | .ok a => .ok a
  | .error fault => .error (.fault fault)

@[simp] theorem liftFault_ok {α : Type} (a : α) : liftFault (.ok a) = .ok a := rfl

@[simp] theorem liftFault_error {α : Type} (fault : Fault) :
    liftFault (.error fault : Except Fault α) = .error (.fault fault) := rfl

end RiscvAssembler
