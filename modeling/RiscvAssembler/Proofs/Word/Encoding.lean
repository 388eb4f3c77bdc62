import RiscvAssembler.Proofs.Table.Accepted
import RiscvAssembler.Proofs.Word.Packing
import RiscvAssembler.Word.Decode
import RiscvAssembler.Word.Encode

/-!
# Encoding as a test and a sum

Encoding takes an instruction apart by its format, tests the immediate on the way and looks for the
function codes. For a well-formed instruction only the test can fail, so that encoding is a test of
the immediate, `Instruction.checkImmediate`, followed by packing `Instruction.operandFields`.

## Main results

* `Instruction.WellFormed.encode_eq`: encoding in one step.
* `Instruction.checkImmediate_eq_ok`, `Instruction.family_of_checkImmediate`: what the test refuses,
  and by which fault.
* `Instruction.WellFormed.encode_eq_ok`: when there is a word, and which.
-/

namespace RiscvAssembler

/-! ### What a format stores -/

namespace Format

/-- The words of the format have a field for a destination register. -/
def hasRd : Format → Bool
  | R | I | U | J => true
  | S | B => false

/-- The words of the format have a field for a first source register. -/
def hasRs1 : Format → Bool
  | R | I | S | B => true
  | U | J => false

/-- The words of the format have a field for a second source register. -/
def hasRs2 : Format → Bool
  | R | S | B => true
  | I | U | J => false

end Format

/-- The register operands are numbers of registers. -/
structure Operands.NameRegisters (o : Operands) : Prop where
  rd : 0 ≤ o.rd ∧ o.rd ≤ 31
  rs1 : 0 ≤ o.rs1 ∧ o.rs1 ≤ 31
  rs2 : 0 ≤ o.rs2 ∧ o.rs2 ≤ 31

namespace Instruction

/-- The immediates that an instruction has room for. -/
def AcceptsImmediate (i : Instruction) (imm : Int) : Prop :=
  match i.format with
  | .R => True
  | .I => if i.funct7.isSome then 0 ≤ imm ∧ imm ≤ 31 else -2048 ≤ imm ∧ imm ≤ 2047
  | .S => -2048 ≤ imm ∧ imm ≤ 2047
  | .B => imm % 2 = 0 ∧ -4096 ≤ imm ∧ imm ≤ 4094
  | .U => -524288 ≤ imm ∧ imm ≤ 1048575
  | .J => imm % 2 = 0 ∧ -1048576 ≤ imm ∧ imm ≤ 1048574

/-- The immediate read from a word is the one given to the instruction. A shift amount shares its
field with the seven-bit function code, and an upper immediate may be given with a sign. -/
def CarriesImmediate (i : Instruction) (imm : Int) (found : Option Int) : Prop :=
  match i.format, i.funct7 with
  | .R, _ => found = none
  | .I, some funct7 => ∃ n ∈ found, slice 0 5 n = imm ∧ slice 5 7 n = funct7
  | .U, _ => found = some (imm % 0x100000)
  | _, _ => found = some imm

/-! ### Encoding in one step -/

/-- The number stored as three-bit function code. -/
def funct3Number (i : Instruction) : Int :=
  (i.funct3.bind FunctionCode.number?).getD 0

/-- The immediate with the seven-bit function code above it, if there is one. -/
def joinedImmediate (i : Instruction) (imm : Int) : Int :=
  match i.funct7 with
  | some funct7 => funct7 * 32 + imm % 32
  | none => imm

theorem joinedImmediate_of_none {i : Instruction} (h : i.funct7 = none) (imm : Int) :
    i.joinedImmediate imm = imm := by
  rw [joinedImmediate, h]

theorem joinedImmediate_of_some {i : Instruction} {n : Int} (h : i.funct7 = some n) (imm : Int) :
    i.joinedImmediate imm = n * 32 + imm % 32 := by
  rw [joinedImmediate, h]

/-- The fields of the word of an instruction. -/
def operandFields (i : Instruction) (o : Operands) : Fields :=
  match i.format with
  | .R => .R o.rd o.rs1 o.rs2 i.funct3Number (i.funct7.getD 0)
  | .I => .I o.rd o.rs1 i.funct3Number (i.joinedImmediate o.imm)
  | .S => .S o.rs1 o.rs2 i.funct3Number o.imm
  | .B => .B o.rs1 o.rs2 i.funct3Number o.imm
  | .U => .U o.rd o.imm
  | .J => .J o.rd o.imm

section

variable (i : Instruction) (o : Operands)

@[simp] theorem format_operandFields : (i.operandFields o).format = i.format := by
  rw [operandFields]
  cases i.format <;> rfl

@[simp] theorem rd?_operandFields :
    (i.operandFields o).rd? = if i.format.hasRd then some o.rd else none := by
  rw [operandFields]
  cases i.format <;> rfl

@[simp] theorem rs1?_operandFields :
    (i.operandFields o).rs1? = if i.format.hasRs1 then some o.rs1 else none := by
  rw [operandFields]
  cases i.format <;> rfl

@[simp] theorem rs2?_operandFields :
    (i.operandFields o).rs2? = if i.format.hasRs2 then some o.rs2 else none := by
  rw [operandFields]
  cases i.format <;> rfl

@[simp] theorem funct3?_operandFields :
    (i.operandFields o).funct3? = if i.format.hasFunct3 then some i.funct3Number else none := by
  rw [operandFields]
  cases i.format <;> rfl

@[simp] theorem funct7?_operandFields :
    (i.operandFields o).funct7? = if i.format.hasFunct7 then some (i.funct7.getD 0) else none := by
  rw [operandFields]
  cases i.format <;> rfl

end

/-- The tests that the immediate of an instruction has to pass. -/
def checkImmediate (i : Instruction) (imm : Int) : Except Fault Unit :=
  match i.format with
  | .R => .ok ()
  | .I =>
    if i.funct7.isSome then checkUnsigned "shift amount" imm 5
    else checkSigned "I-type immediate" imm 12
  | .S => checkSigned "S-type immediate" imm 12
  | .B => checkBranch imm
  | .U => checkUpper imm
  | .J => checkJump imm

/-- A well-formed instruction has the three-bit function code that its format stores. -/
theorem WellFormed.funct3_eq {i : Instruction} (hi : i.WellFormed)
    (hf : i.format.hasFunct3 = true) :
    i.funct3 = some (.code i.funct3Number) ∧ 0 ≤ i.funct3Number ∧ i.funct3Number ≤ 7 := by
  obtain ⟨f, hf, hbits⟩ := hi.funct3 hf
  cases f with
  | code n =>
    rw [funct3Number, Option.mem_def.mp hf]
    exact ⟨rfl, hbits⟩
  | unchecked v => exact hbits.elim

theorem WellFormed.neededFunct3 {i : Instruction} (hi : i.WellFormed)
    (hf : i.format.hasFunct3 = true) : i.neededFunct3 = .ok i.funct3Number := by
  rw [Instruction.neededFunct3, (hi.funct3_eq hf).1]
  rfl

theorem WellFormed.neededFunct7 {i : Instruction} (hi : i.WellFormed)
    (hf : i.format.hasFunct7 = true) : i.neededFunct7 = .ok (i.funct7.getD 0) := by
  obtain ⟨n, hn⟩ := Option.isSome_iff_exists.mp (hi.isSome_funct7 hf)
  simp [Instruction.neededFunct7, hn]

/-- **Encoding is a test and then a sum of fields.** -/
theorem WellFormed.encode_eq {i : Instruction} (hi : i.WellFormed) (o : Operands) :
    i.encode o = (liftFault (i.checkImmediate o.imm)).map fun _ =>
      (i.operandFields o).pack i.opcode := by
  rw [encode, encodeAs, checkImmediate, operandFields]
  cases hf : i.format with
  | R =>
    rw [fields, hi.neededFunct3 (by rw [hf]; rfl), hi.neededFunct7 (by rw [hf]; rfl)]
    rfl
  | I =>
    rw [fields, hi.neededFunct3 (by rw [hf]; rfl)]
    cases h₇ : i.funct7 with
    | none =>
      simp only [immediateField, joinedImmediate, h₇]
      cases checkSigned "I-type immediate" o.imm 12 <;> rfl
    | some n =>
      simp only [immediateField, joinedImmediate, h₇]
      cases checkUnsigned "shift amount" o.imm 5 <;> rfl
  | S =>
    rw [fields, hi.neededFunct3 (by rw [hf]; rfl)]
    cases checkSigned "S-type immediate" o.imm 12 <;> rfl
  | B =>
    rw [fields, hi.neededFunct3 (by rw [hf]; rfl)]
    cases checkBranch o.imm <;> rfl
  | U =>
    rw [fields]
    cases checkUpper o.imm <;> rfl
  | J =>
    rw [fields]
    cases checkJump o.imm <;> rfl

end Instruction

/-! ### The tests on immediates -/

theorem checkRange_eq_ok {what : String} {value low high : Int} {bits : Nat} :
    checkRange what value low high bits = .ok () ↔ low ≤ value ∧ value ≤ high := by
  rw [checkRange]
  split
  case isTrue h => exact ⟨fun _ => h, fun _ => rfl⟩
  case isFalse h => exact ⟨nofun, fun h' => absurd h' h⟩

theorem checkRange_eq_error {what : String} {value low high : Int} {bits : Nat} {f : Fault}
    (h : checkRange what value low high bits = .error f) :
    f = .outOfRange what value low high bits := by
  rw [checkRange] at h
  split at h
  · cases h
  · cases h; rfl

theorem checkSigned_eq_ok {what : String} {value : Int} {bits : Nat} :
    checkSigned what value bits = .ok () ↔
      -2 ^ (bits - 1) ≤ value ∧ value ≤ 2 ^ (bits - 1) - 1 :=
  checkRange_eq_ok

theorem checkUnsigned_eq_ok {what : String} {value : Int} {bits : Nat} :
    checkUnsigned what value bits = .ok () ↔ 0 ≤ value ∧ value ≤ 2 ^ bits - 1 :=
  checkRange_eq_ok

theorem checkEven_of_even {value : Int} (h : value % 2 = 0) (what : String) :
    checkEven what value = .ok () :=
  if_pos h

theorem checkEven_of_odd {value : Int} (h : value % 2 ≠ 0) (what : String) :
    checkEven what value = .error (.odd what value) :=
  if_neg h

/-- The two tests on an offset, evenness first. -/
def checkOffset (even range : String) (value : Int) (bits : Nat) : Except Fault Unit := do
  checkEven even value
  checkSigned range value bits

theorem checkOffset_of_even {value : Int} (h : value % 2 = 0) (even range : String) (bits : Nat) :
    checkOffset even range value bits = checkSigned range value bits := by
  rw [checkOffset, checkEven_of_even h]
  rfl

theorem checkOffset_of_odd {value : Int} (h : value % 2 ≠ 0) (even range : String) (bits : Nat) :
    checkOffset even range value bits = .error (.odd even value) := by
  rw [checkOffset, checkEven_of_odd h]
  rfl

theorem checkOffset_eq_ok {even range : String} {value : Int} {bits : Nat} :
    checkOffset even range value bits = .ok () ↔
      value % 2 = 0 ∧ -2 ^ (bits - 1) ≤ value ∧ value ≤ 2 ^ (bits - 1) - 1 := by
  by_cases h : value % 2 = 0
  · rw [checkOffset_of_even h, checkSigned_eq_ok]
    simp [h]
  · rw [checkOffset_of_odd h]
    simp [h]

/-- A test on a range or an offset fails for the value alone. -/
theorem family_of_checkRange {what : String} {value low high : Int} {bits : Nat} {f : Fault}
    (h : checkRange what value low high bits = .error f) : f.family = .immediateRange := by
  rw [checkRange_eq_error h]
  rfl

theorem family_of_checkOffset {even range : String} {value : Int} {bits : Nat} {f : Fault}
    (h : checkOffset even range value bits = .error f) : f.family = .immediateRange := by
  by_cases hv : value % 2 = 0
  · rw [checkOffset_of_even hv] at h
    exact family_of_checkRange h
  · rw [checkOffset_of_odd hv] at h
    cases h; rfl

namespace Instruction

theorem checkBranch_eq (imm : Int) :
    checkBranch imm = checkOffset "B-type branch offset" "B-type offset" imm 13 := rfl

theorem checkJump_eq (imm : Int) :
    checkJump imm = checkOffset "J-type jump offset" "J-type offset" imm 21 := rfl

theorem checkUpper_eq_ok {imm : Int} :
    checkUpper imm = .ok () ↔ -524288 ≤ imm ∧ imm ≤ 1048575 := by
  rw [checkUpper]
  split
  · rw [checkSigned_eq_ok]
    omega
  · rw [checkUnsigned_eq_ok]
    omega

theorem family_of_checkUpper {imm : Int} {f : Fault} (h : checkUpper imm = .error f) :
    f.family = .immediateRange := by
  rw [checkUpper] at h
  split at h <;> exact family_of_checkRange h

/-- The tests on the immediate of an instruction decide whether there is room for it. -/
theorem checkImmediate_eq_ok {i : Instruction} {imm : Int} :
    i.checkImmediate imm = .ok () ↔ i.AcceptsImmediate imm := by
  rw [checkImmediate, AcceptsImmediate]
  cases i.format with
  | R => simp
  | I =>
    dsimp only
    split <;> exact checkRange_eq_ok
  | S => exact checkRange_eq_ok
  | B =>
    rw [checkBranch_eq, checkOffset_eq_ok]
    omega
  | U => exact checkUpper_eq_ok
  | J =>
    rw [checkJump_eq, checkOffset_eq_ok]
    omega

theorem family_of_checkImmediate {i : Instruction} {imm : Int} {f : Fault}
    (h : i.checkImmediate imm = .error f) : f.family = .immediateRange := by
  rw [checkImmediate] at h
  cases hf : i.format <;> simp only [hf] at h
  case R => cases h
  case I => split at h <;> exact family_of_checkRange h
  case S => exact family_of_checkRange h
  case B => exact family_of_checkOffset h
  case U => exact family_of_checkUpper h
  case J => exact family_of_checkOffset h

namespace WellFormed

variable {i : Instruction} {o : Operands} {w : Int}

/-- An instruction is encoded exactly if there is room for its immediate. -/
theorem encode_eq_ok (hi : i.WellFormed) :
    i.encode o = .ok w ↔ i.AcceptsImmediate o.imm ∧ (i.operandFields o).pack i.opcode = w := by
  rw [hi.encode_eq, map_eq_ok]
  constructor
  · rintro ⟨_, hc, hw⟩
    exact ⟨checkImmediate_eq_ok.mp (liftFault_eq_ok.mp hc), hw⟩
  · rintro ⟨ha, hw⟩
    exact ⟨(), liftFault_eq_ok.mpr (checkImmediate_eq_ok.mpr ha), hw⟩

theorem encode_eq_error (hi : i.WellFormed) {f : Fault} (h : i.checkImmediate o.imm = .error f) :
    i.encode o = .error (.fault f) := by
  rw [hi.encode_eq, h]
  rfl

/-- Encoding fails for the immediate and for nothing else. -/
theorem exists_of_encode_eq_error (hi : i.WellFormed) {failure : Failure Fault}
    (h : i.encode o = .error failure) :
    ∃ f, i.checkImmediate o.imm = .error f ∧ failure = .fault f := by
  rw [hi.encode_eq, map_eq_error] at h
  exact liftFault_eq_error.mp h

end WellFormed

end Instruction

end RiscvAssembler
