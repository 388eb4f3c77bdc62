import RiscvAssembler.Field
import RiscvAssembler.Literal
import RiscvAssembler.Text.Lowercase

/-!
# Pseudo-instructions

Most pseudo-instructions stand for one base instruction with some operands fixed, others exchanged.
Loading a constant takes one or two instructions, depending on its value. Expansion looks at the
text of the operands only, so a label operand is passed on.

## Main definitions

* `Pseudo.Template`: a base instruction with places for operands.
* `Pseudo.find?`: the pseudo-instruction that a mnemonic with a number of operands is.
* `expand`, `isPseudo`: the base instructions of a line.
-/

namespace RiscvAssembler

open Text

namespace Pseudo

/-- An operand of a base instruction: a fixed text, or an operand of the pseudo-instruction. -/
inductive Slot
  | fixed (text : String)
  | operand (position : Nat)
  deriving DecidableEq, Repr

/-- A base instruction with places for the operands of a pseudo-instruction. -/
structure Template where
  arity : Nat
  mnemonic : String
  slots : List Slot
  deriving DecidableEq, Repr

/-- The text of a slot, given the operands. -/
def Slot.fill (operands : List String) : Slot → String
  | fixed text => text
  | operand position => operands.getD position ""

/-- The tokens of the base instruction, given the operands. -/
def Template.fill (t : Template) (operands : List String) : List String :=
  t.mnemonic :: t.slots.map (Slot.fill operands)

/-- The zero register, which many pseudo-instructions fix. -/
def zero : Slot := .fixed "x0"

/-- The pseudo-instructions that stand for one base instruction. -/
def templates : List (String × Template) :=
  [("nop", ⟨0, "addi", [zero, zero, .fixed "0"]⟩),
   ("ret", ⟨0, "jalr", [zero, .fixed "ra", .fixed "0"]⟩),
   ("mv", ⟨2, "addi", [.operand 0, .operand 1, .fixed "0"]⟩),
   ("not", ⟨2, "xori", [.operand 0, .operand 1, .fixed "-1"]⟩),
   ("neg", ⟨2, "sub", [.operand 0, zero, .operand 1]⟩),
   ("seqz", ⟨2, "sltiu", [.operand 0, .operand 1, .fixed "1"]⟩),
   ("snez", ⟨2, "sltu", [.operand 0, zero, .operand 1]⟩),
   ("sltz", ⟨2, "slt", [.operand 0, .operand 1, zero]⟩),
   ("sgtz", ⟨2, "slt", [.operand 0, zero, .operand 1]⟩),
   ("beqz", ⟨2, "beq", [.operand 0, zero, .operand 1]⟩),
   ("bnez", ⟨2, "bne", [.operand 0, zero, .operand 1]⟩),
   ("blez", ⟨2, "bge", [zero, .operand 0, .operand 1]⟩),
   ("bgez", ⟨2, "bge", [.operand 0, zero, .operand 1]⟩),
   ("bltz", ⟨2, "blt", [.operand 0, zero, .operand 1]⟩),
   ("bgtz", ⟨2, "blt", [zero, .operand 0, .operand 1]⟩),
   ("bgt", ⟨3, "blt", [.operand 1, .operand 0, .operand 2]⟩),
   ("ble", ⟨3, "bge", [.operand 1, .operand 0, .operand 2]⟩),
   ("bgtu", ⟨3, "bltu", [.operand 1, .operand 0, .operand 2]⟩),
   ("bleu", ⟨3, "bgeu", [.operand 1, .operand 0, .operand 2]⟩),
   ("j", ⟨1, "jal", [zero, .operand 0]⟩),
   ("call", ⟨1, "jal", [.fixed "ra", .operand 0]⟩),
   ("tail", ⟨1, "jal", [zero, .operand 0]⟩),
   ("jr", ⟨1, "jalr", [zero, .operand 0, .fixed "0"]⟩)]

/-- Base mnemonics that stand for a longer form if they have one operand. -/
def shortForms : List (String × Template) :=
  [("jal", ⟨1, "jal", [.fixed "ra", .operand 0]⟩),
   ("jalr", ⟨1, "jalr", [.fixed "ra", .operand 0, .fixed "0"]⟩)]

end Pseudo

/-- What a line with a pseudo-instruction stands for. -/
inductive Pseudo
  | loadImmediate
  | template (name : String) (t : Pseudo.Template)
  deriving DecidableEq, Repr

namespace Pseudo

/-- The pseudo-instruction of a lower-case mnemonic before `count` operands. -/
def find? (mnemonic : String) (count : Nat) : Option Pseudo :=
  if mnemonic = "li" then some .loadImmediate
  else
    match templates.lookup mnemonic with
    | some t => some (.template mnemonic t)
    | none => if count = 1 then (shortForms.lookup mnemonic).map (.template mnemonic) else none

/-! ### Expansion -/

/-- The number of operands is the one that the pseudo-instruction needs. -/
def checkCount (name : String) (operands : List String) (required : Nat) : Except Fault Unit :=
  if operands.length = required then .ok ()
  else .error (.pseudoOperandCount name required operands.length)

/-- The base instructions that load a constant into a register: one if the constant fits twelve
bits or has no lower part, and two otherwise. -/
def loadConstant (rd : String) (value : Int) : List (List String) :=
  if -2048 ≤ value ∧ value ≤ 2047 then [["addi", rd, "x0", decimal value]]
  else
    let (upper, lower) := splitConstant value
    ["lui", rd, decimal upper] :: if lower = 0 then [] else [["addi", rd, rd, decimal lower]]

/-- Loads a constant, or the address of a label, which has to fit twelve bits. -/
def expandLoad (rd operand : String) : Except Fault (List (List String)) :=
  let text := trim operand
  if !isLiteral text && isLabelName text then .ok [["addi", rd, "x0", text]]
  else
    match parseImmediate text with
    | .error fault => .error fault
    | .ok value =>
      if -0x80000000 ≤ value ∧ value < 0x100000000 then .ok (loadConstant rd value)
      else .error (.constantTooWide value)

/-- The base instructions of a pseudo-instruction. -/
def expand (operands : List String) : Pseudo → Except Fault (List (List String))
  | .loadImmediate => do
    checkCount "li" operands 2
    expandLoad (operands.getD 0 "") (operands.getD 1 "")
  | .template name t => do
    checkCount name operands t.arity
    pure [t.fill operands]

/-- The pseudo-instruction that tokens without a label are. -/
def ofTokens? : List String → Option Pseudo
  | [] => none
  | mnemonic :: operands => find? (lowercase mnemonic) operands.length

end Pseudo

/-- The tokens, which have no label, are a pseudo-instruction. -/
def isPseudo (tokens : List String) : Bool :=
  (Pseudo.ofTokens? tokens).isSome

/-- The base instructions that tokens without a label stand for. Tokens that are no
pseudo-instruction stand for themselves. -/
def expand (tokens : List String) : Except Fault (List (List String)) :=
  match Pseudo.ofTokens? tokens with
  | some p => p.expand tokens.tail
  | none => .ok [tokens]

/-- The number of base instructions that tokens without a label stand for. -/
def expansionCount (tokens : List String) : Except Fault Nat :=
  (expand tokens).map List.length

end RiscvAssembler
