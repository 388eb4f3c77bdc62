import RiscvAssembler.Program.Instruction
import RiscvAssembler.Program.Line
import RiscvAssembler.Program.Trace

/-!
# Emitting words

The second pass over a program encodes the base instructions of every line in order, with the
symbols that the first pass has found.

## Main definitions

* `Emitted`: a word with its address and the line it comes from.
* `Emission`: what the pass leaves behind, whether it succeeds or not.
* `emit`: the pass over the lines of a program.
-/

namespace RiscvAssembler

/-- A word of a program, the base instruction it encodes, and the line it comes from. -/
structure Emitted where
  address : Int
  word : Int
  tokens : List String
  line : String
  number : Nat
  deriving DecidableEq, Repr

/-- The event that tells of a word. -/
def Emitted.event (e : Emitted) : Event :=
  .word e.address e.word e.tokens

/-- The words emitted, the address reached, and why it went no further if it did not. -/
structure Emission where
  entries : List Emitted
  address : Int
  failure? : Option (Failure Report)

namespace Emission

/-- Puts entries in front. -/
def after (entries : List Emitted) (e : Emission) : Emission :=
  { e with entries := entries ++ e.entries }

@[simp] theorem entries_after (entries : List Emitted) (e : Emission) :
    (e.after entries).entries = entries ++ e.entries := rfl

@[simp] theorem address_after (entries : List Emitted) (e : Emission) :
    (e.after entries).address = e.address := rfl

@[simp] theorem failure?_after (entries : List Emitted) (e : Emission) :
    (e.after entries).failure? = e.failure? := rfl

/-- Goes on with `next` at the address reached, unless something went wrong. -/
def andThen (e : Emission) (next : Int → Emission) : Emission :=
  if e.failure?.isSome then e else (next e.address).after e.entries

@[simp] theorem andThen_of_isSome {e : Emission} (h : e.failure?.isSome = true)
    (next : Int → Emission) : e.andThen next = e := by
  simp [andThen, h]

@[simp] theorem andThen_of_eq_none {e : Emission} (h : e.failure? = none)
    (next : Int → Emission) : e.andThen next = (next e.address).after e.entries := by
  simp [andThen, h]

/-- The events of an emission. -/
def events (e : Emission) : List Event :=
  .encoding :: e.entries.map Emitted.event ++
    if e.failure?.isSome then [] else [.instructionCount e.entries.length]

end Emission

/-- The failure of an instruction, with the line to blame for a fault. -/
def locateFailure (number : Nat) (line : String) : Failure Fault → Failure Report
  | .fault f => .fault ((Report.ofFault f).locate (some number) (some line))
  | .misuse m => .misuse m

/-- Emits the words of the base instructions of one line. -/
def emitInstructions (t : InstructionTable) (symbols : SymbolTable) (line : String) (number : Nat)
    (address : Int) : List (List String) → Emission
  | [] => ⟨[], address, none⟩
  | tokens :: rest =>
    match assembleInstruction t symbols address tokens with
    | .error failure => ⟨[], address, some (locateFailure number line failure)⟩
    | .ok word =>
      (emitInstructions t symbols line number (address + 4) rest).after
        [⟨address, word, tokens, line, number⟩]

/-- Emits the words of one line. -/
def emitLine (t : InstructionTable) (symbols : SymbolTable) (line : String) (number : Nat)
    (address : Int) : Emission :=
  match expandLine line with
  | .error fault => ⟨[], address, some (locateFailure number line (.fault fault))⟩
  | .ok instructions => emitInstructions t symbols line number address instructions

/-- Emits the words of the lines from number `number` on, which start at `address`. -/
def emitFrom (t : InstructionTable) (symbols : SymbolTable) (number : Nat) (address : Int) :
    List String → Emission
  | [] => ⟨[], address, none⟩
  | line :: rest =>
    (emitLine t symbols line number address).andThen fun address =>
      emitFrom t symbols (number + 1) address rest

/-- Emits the words of a program. -/
def emit (t : InstructionTable) (symbols : SymbolTable) (lines : List String) : Emission :=
  emitFrom t symbols 1 0 lines

end RiscvAssembler
