import RiscvAssembler.Field
import RiscvAssembler.Instruction

/-!
# The fields of instruction words

A word of each format carries its own set of fields. `Fields.pack` stores them and `Fields.unpack`
reads them back; an immediate that is cut up or moved about in the word is put together again.

## Main definitions

* `Fields`: the fields beside the opcode, by format.
* `Fields.pack`, `Fields.unpack`: the word of an opcode and fields, and the fields of a word.
-/

namespace RiscvAssembler

/-- The fields of a word beside its opcode. Immediates of `I`, `S`, `B` and `J` are signed, offsets
of `B` and `J` count bytes, and the immediate of `U` is the field as it stands. -/
inductive Fields
  | R (rd rs1 rs2 funct3 funct7 : Int)
  | I (rd rs1 funct3 imm : Int)
  | S (rs1 rs2 funct3 imm : Int)
  | B (rs1 rs2 funct3 imm : Int)
  | U (rd imm : Int)
  | J (rd imm : Int)
  deriving DecidableEq, Repr

namespace Fields

/-- The format that carries the fields. -/
def format : Fields → Format
  | R .. => .R
  | I .. => .I
  | S .. => .S
  | B .. => .B
  | U .. => .U
  | J .. => .J

/-- The destination register. -/
def rd? : Fields → Option Int
  | R rd .. | I rd .. | U rd _ | J rd _ => some rd
  | S .. | B .. => none

/-- The first source register. -/
def rs1? : Fields → Option Int
  | R _ rs1 .. | I _ rs1 .. | S rs1 .. | B rs1 .. => some rs1
  | U .. | J .. => none

/-- The second source register. -/
def rs2? : Fields → Option Int
  | R _ _ rs2 .. | S _ rs2 .. | B _ rs2 .. => some rs2
  | I .. | U .. | J .. => none

/-- The three-bit function code. -/
def funct3? : Fields → Option Int
  | R _ _ _ funct3 _ | I _ _ funct3 _ | S _ _ funct3 _ | B _ _ funct3 _ => some funct3
  | U .. | J .. => none

/-- The seven-bit function code, where the format has a field of its own for it. -/
def funct7? : Fields → Option Int
  | R _ _ _ _ funct7 => some funct7
  | I .. | S .. | B .. | U .. | J .. => none

/-- The immediate. -/
def imm? : Fields → Option Int
  | I _ _ _ imm | S _ _ _ imm | B _ _ _ imm | U _ imm | J _ imm => some imm
  | R .. => none

/-- The seven bits that tell instructions with equal opcode and `funct3` apart: the field of `R`,
and the upper bits of the immediate elsewhere. -/
def selector : Fields → Int
  | R _ _ _ _ funct7 => funct7
  | I _ _ _ imm | S _ _ _ imm | B _ _ _ imm | U _ imm | J _ imm => slice 5 7 imm

/-- The word with an opcode and fields. Each field keeps the low bits that it has room for. -/
def pack (opcode : Int) : Fields → Int
  | R rd rs1 rs2 funct3 funct7 =>
    place 0 7 opcode + place 7 5 rd + place 12 3 funct3 + place 15 5 rs1 + place 20 5 rs2 +
      place 25 7 funct7
  | I rd rs1 funct3 imm =>
    place 0 7 opcode + place 7 5 rd + place 12 3 funct3 + place 15 5 rs1 + place 20 12 imm
  | S rs1 rs2 funct3 imm =>
    place 0 7 opcode + place 7 5 imm + place 12 3 funct3 + place 15 5 rs1 + place 20 5 rs2 +
      place 25 7 (slice 5 7 imm)
  | B rs1 rs2 funct3 imm =>
    place 0 7 opcode + place 7 1 (slice 11 1 imm) + place 8 4 (slice 1 4 imm) +
      place 12 3 funct3 + place 15 5 rs1 + place 20 5 rs2 + place 25 6 (slice 5 6 imm) +
      place 31 1 (slice 12 1 imm)
  | U rd imm => place 0 7 opcode + place 7 5 rd + place 12 20 imm
  | J rd imm =>
    place 0 7 opcode + place 7 5 rd + place 12 8 (slice 12 8 imm) + place 20 1 (slice 11 1 imm) +
      place 21 10 (slice 1 10 imm) + place 31 1 (slice 20 1 imm)

/-- The fields of a word in a format. -/
def unpack (word : Int) : Format → Fields
  | .R =>
    R (slice 7 5 word) (slice 15 5 word) (slice 20 5 word) (slice 12 3 word) (slice 25 7 word)
  | .I => I (slice 7 5 word) (slice 15 5 word) (slice 12 3 word) (signExtend (slice 20 12 word) 12)
  | .S =>
    S (slice 15 5 word) (slice 20 5 word) (slice 12 3 word)
      (signExtend (slice 25 7 word * 32 + slice 7 5 word) 12)
  | .B =>
    B (slice 15 5 word) (slice 20 5 word) (slice 12 3 word)
      (signExtend
        (slice 31 1 word * 4096 + slice 7 1 word * 2048 + slice 25 6 word * 32 + slice 8 4 word * 2)
        13)
  | .U => U (slice 7 5 word) (slice 12 20 word)
  | .J =>
    J (slice 7 5 word)
      (signExtend
        (slice 31 1 word * 0x100000 + slice 12 8 word * 4096 + slice 20 1 word * 2048 +
          slice 21 10 word * 2) 21)

@[simp] theorem format_unpack (word : Int) (f : Format) : (unpack word f).format = f := by
  cases f <;> rfl

end Fields

end RiscvAssembler
