import RiscvAssembler.Word.Fields

/-!
# Encoding

An instruction and its operands become the fields of a word. An immediate that does not fit its
field is refused and never cut short.

## Main definitions

* `Operands`: the register numbers and the immediate of an instruction.
* `Instruction.fields`: the fields of the word in a given format, after the tests on the immediate.
* `Instruction.encode`: the word in the format of the instruction.
* `Instruction.encodeGiven`: the word in a given format from exactly the operands it needs.
-/

namespace RiscvAssembler

/-- The register numbers and the immediate of an instruction; a format uses some of them. -/
structure Operands where
  rd : Int := 0
  rs1 : Int := 0
  rs2 : Int := 0
  imm : Int := 0
  deriving DecidableEq, Repr

namespace Instruction

/-- The number of the three-bit function code, which the format needs. -/
def neededFunct3 (i : Instruction) : Except (Failure Fault) Int :=
  match i.funct3.bind FunctionCode.number? with
  | some n => .ok n
  | none => .error (.misuse .missingField)

/-- The seven-bit function code, which the format needs. -/
def neededFunct7 (i : Instruction) : Except (Failure Fault) Int :=
  match i.funct7 with
  | some n => .ok n
  | none => .error (.misuse .missingField)

/-! ### Tests on immediates -/

/-- The immediate field of format `I`: the immediate, or a shift amount below the seven-bit function
code. -/
def immediateField (i : Instruction) (imm : Int) : Except Fault Int := do
  match i.funct7 with
  | some funct7 =>
    checkUnsigned "shift amount" imm 5
    pure (funct7 * 32 + imm % 32)
  | none =>
    checkSigned "I-type immediate" imm 12
    pure imm

/-- The tests on an upper immediate: a negative one must fit its sign, any other one the field. -/
def checkUpper (imm : Int) : Except Fault Unit :=
  if imm < 0 then checkSigned "U-type immediate" imm 20 else checkUnsigned "U-type immediate" imm 20

/-- The tests on a branch offset. -/
def checkBranch (imm : Int) : Except Fault Unit := do
  checkEven "B-type branch offset" imm
  checkSigned "B-type offset" imm 13

/-- The tests on a jump offset. -/
def checkJump (imm : Int) : Except Fault Unit := do
  checkEven "J-type jump offset" imm
  checkSigned "J-type offset" imm 21

/-! ### Words -/

/-- The fields of the word of an instruction in format `f`. -/
def fields (i : Instruction) (o : Operands) : Format → Except (Failure Fault) Fields
  | .R => do
    let funct3 ← i.neededFunct3
    let funct7 ← i.neededFunct7
    pure (.R o.rd o.rs1 o.rs2 funct3 funct7)
  | .I => do
    let imm ← liftFault (i.immediateField o.imm)
    let funct3 ← i.neededFunct3
    pure (.I o.rd o.rs1 funct3 imm)
  | .S => do
    liftFault (checkSigned "S-type immediate" o.imm 12)
    let funct3 ← i.neededFunct3
    pure (.S o.rs1 o.rs2 funct3 o.imm)
  | .B => do
    liftFault (checkBranch o.imm)
    let funct3 ← i.neededFunct3
    pure (.B o.rs1 o.rs2 funct3 o.imm)
  | .U => do
    liftFault (checkUpper o.imm)
    pure (.U o.rd o.imm)
  | .J => do
    liftFault (checkJump o.imm)
    pure (.J o.rd o.imm)

/-- The word of an instruction in format `f`. -/
def encodeAs (i : Instruction) (f : Format) (o : Operands) : Except (Failure Fault) Int :=
  (i.fields o f).map (Fields.pack i.opcode)

/-- The word of an instruction. -/
def encode (i : Instruction) (o : Operands) : Except (Failure Fault) Int :=
  i.encodeAs i.format o

end Instruction

/-- Operands of which some are not given. -/
structure PartialOperands where
  rd : Option Int := none
  rs1 : Option Int := none
  rs2 : Option Int := none
  imm : Option Int := none
  deriving DecidableEq, Repr

namespace PartialOperands

/-- The operands, zero standing for those not given. -/
def orZero (o : PartialOperands) : Operands :=
  ⟨o.rd.getD 0, o.rs1.getD 0, o.rs2.getD 0, o.imm.getD 0⟩

/-- Exactly the operands that the format stores are given. -/
def fits (o : PartialOperands) (f : Format) : Bool :=
  let stored := Fields.unpack 0 f
  o.rd.isSome == stored.rd?.isSome && o.rs1.isSome == stored.rs1?.isSome &&
    o.rs2.isSome == stored.rs2?.isSome && o.imm.isSome == stored.imm?.isSome

end PartialOperands

/-- The word of an instruction in format `f`, if exactly the operands of the format are given. -/
def Instruction.encodeGiven (i : Instruction) (f : Format) (o : PartialOperands) :
    Except (Failure Fault) Int :=
  if o.fits f then i.encodeAs f o.orZero else .error (.misuse .missingField)

end RiscvAssembler
