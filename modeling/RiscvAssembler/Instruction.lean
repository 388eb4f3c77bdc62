import RiscvAssembler.Fault
import RiscvAssembler.Yaml.Value

/-!
# Instructions

A base instruction is an opcode, the format of its word, and up to two function codes that tell it
from the other instructions with its opcode.

## Main definitions

* `Format`: the six formats of RV32I.
* `FunctionCode`: a function code, or what a table holds in its place where it is not checked.
* `Instruction`: the constants of a base instruction.
-/

namespace RiscvAssembler

/-- The formats of instruction words. -/
inductive Format
  /-- Three registers. -/
  | R
  /-- Two registers and an immediate of twelve bits. -/
  | I
  /-- A store: two source registers and an immediate of twelve bits. -/
  | S
  /-- A branch: two source registers and an even offset of thirteen bits. -/
  | B
  /-- A register and an upper immediate of twenty bits. -/
  | U
  /-- A jump: a register and an even offset of twenty-one bits. -/
  | J
  deriving DecidableEq, Repr

namespace Format

/-- All formats, in the order in which they are named. -/
def all : List Format := [R, I, S, B, U, J]

theorem mem_all (f : Format) : f ∈ all := by
  cases f <;> decide

/-- The letter of a format. -/
def letter : Format → String
  | R => "R"
  | I => "I"
  | S => "S"
  | B => "B"
  | U => "U"
  | J => "J"

/-- The format with the given letter. -/
def ofLetter? (letter : String) : Option Format :=
  all.find? fun f => f.letter == letter

@[simp] theorem ofLetter?_letter (f : Format) : ofLetter? f.letter = some f := by
  cases f <;> decide

/-- The words of the format have a field for a three-bit function code. -/
def hasFunct3 : Format → Bool
  | R | I | S | B => true
  | U | J => false

/-- The words of the format have a field of their own for a seven-bit function code. -/
def hasFunct7 (f : Format) : Bool :=
  f == R

/-- The label operands of the format are offsets from the address of the instruction. -/
def isRelative (f : Format) : Bool :=
  f == B || f == J

end Format

/-- What a table gives as a three-bit function code. -/
inductive FunctionCode
  | code (n : Int)
  /-- A value under an instruction whose format has no place for it, which nobody has checked. -/
  | unchecked (v : Yaml.Value)
  deriving Repr

namespace FunctionCode

/-- The number to be stored, if there is one. -/
def number? : FunctionCode → Option Int
  | code n => some n
  | unchecked v => v.asInt?

/-- The code is the number found in a word. -/
def isCode (f : FunctionCode) (found : Option Int) : Bool :=
  match f, found with
  | code n, some m => n == m
  | _, _ => false

end FunctionCode

/-- The constants of a base instruction. -/
structure Instruction where
  opcode : Int
  format : Format
  funct3 : Option FunctionCode := none
  funct7 : Option Int := none
  deriving Repr

/-- The opcodes that decide where the operands of an instruction stand. -/
def Opcode.load : Int := 0x03

@[inherit_doc Opcode.load] def Opcode.store : Int := 0x23

@[inherit_doc Opcode.load] def Opcode.branch : Int := 0x63

@[inherit_doc Opcode.load] def Opcode.jumpRegister : Int := 0x67

end RiscvAssembler
