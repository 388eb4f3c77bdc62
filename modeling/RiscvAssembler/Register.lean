import RiscvAssembler.Fault
import RiscvAssembler.Text.Lowercase

/-!
# Registers

The thirty-two integer registers. Each has a number and the name of its role in the calling
convention; register eight has the further name `fp`. Names are read in any letter case.

## Main definitions

* `Register.names`: every name with its number.
* `Register.resolve`: the number of a name.
* `Register.roleName?`, `Register.numberName?`: the two names of a number.
-/

namespace RiscvAssembler.Register

open Text

/-- The names of the registers by role, in order of number. -/
def roles : List String :=
  ["zero", "ra", "sp", "gp", "tp", "t0", "t1", "t2", "s0", "s1", "a0", "a1", "a2", "a3", "a4", "a5",
   "a6", "a7", "s2", "s3", "s4", "s5", "s6", "s7", "s8", "s9", "s10", "s11", "t3", "t4", "t5", "t6"]

/-- Every name of a register with its number. -/
def names : List (String × Nat) :=
  (List.range 32).map (fun n : Nat => ("x" ++ decimal n, n)) ++ roles.zipIdx ++ [("fp", 8)]

/-- The number of the register that `name` denotes, in any letter case. -/
def find? (name : String) : Option Nat :=
  names.lookup (trim (lowercase name))

/-- The name denotes a register. -/
def isValid (name : String) : Bool :=
  (find? name).isSome

/-- The number of a register, or the fault that there is none of this name. -/
def resolve (name : String) : Except Fault Int :=
  match find? name with
  | some n => .ok n
  | none => .error (.unknownRegister name)

/-- A number that no register has. -/
structure OutOfRange where
  number : Int
  deriving DecidableEq, Repr

/-- The wording of the error. -/
def OutOfRange.message (e : OutOfRange) : String :=
  "Invalid register number: " ++ decimal e.number

/-- The name of a register by role, for a number below thirty-two. -/
def roleName (n : Nat) : String :=
  roles.getD n ""

/-- The name by role of the register with the given number. -/
def nameByRole (number : Int) : Except OutOfRange String :=
  if 0 ≤ number ∧ number ≤ 31 then .ok (roleName number.toNat) else .error ⟨number⟩

/-- The name `x0` to `x31` of the register with the given number. -/
def nameByNumber (number : Int) : Except OutOfRange String :=
  if 0 ≤ number ∧ number ≤ 31 then .ok ("x" ++ decimal number) else .error ⟨number⟩

end RiscvAssembler.Register
