import RiscvAssembler.Dictionary
import RiscvAssembler.Operand.Immediate
import RiscvAssembler.Program.Line
import RiscvAssembler.Program.Trace
import RiscvAssembler.Text.Lines

/-!
# Collecting labels

The first pass over a program gives every label the address of the next instruction. Each line takes
four bytes for every base instruction that it stands for.

## Main definitions

* `Collection`: what the pass leaves behind, whether it succeeds or not.
* `collect`: the pass over the lines of a program.
* `resolveLabels`: the symbols of a program.
-/

namespace RiscvAssembler

open Text

/-- The result of collecting labels, with the address reached and the events on the way. -/
structure Collection where
  address : Int
  events : List Event
  outcome : Except Report SymbolTable

namespace Collection

/-- Puts events in front. -/
def after (events : List Event) (c : Collection) : Collection :=
  { c with events := events ++ c.events }

@[simp] theorem address_after (events : List Event) (c : Collection) :
    (c.after events).address = c.address := rfl

@[simp] theorem outcome_after (events : List Event) (c : Collection) :
    (c.after events).outcome = c.outcome := rfl

/-- The result of a fault in a line. -/
def failed (address : Int) (number : Nat) (line : String) (fault : Fault) : Collection where
  address := address
  events := []
  outcome := .error ((Report.ofFault fault).locate (some number) (some line))

end Collection

/-- The symbols after a line with the given tokens at `address`: its label must be new. -/
def declareLabel (symbols : SymbolTable) (address : Int) (label? : Option String) :
    Except Fault SymbolTable :=
  match label? with
  | none => .ok symbols
  | some label =>
    if Dictionary.contains label symbols then .error (.duplicateLabel label)
    else .ok (symbols ++ [(label, address)])

/-- Collects the labels of the lines from number `number` on, which start at `address`. -/
def collectFrom (symbols : SymbolTable) (address : Int) (number : Nat) :
    List String → Collection
  | [] =>
    { address
      events := [.symbolCount symbols.length, .programSize address]
      outcome := .ok symbols }
  | line :: rest =>
    let label? := leadingLabel? (tokenize line)
    match declareLabel symbols address label? with
    | .error fault => .failed address number line fault
    | .ok symbols =>
      .after (label?.toList.map fun label => .label label address) <|
        match expandLine line with
        | .error fault => .failed address number line fault
        | .ok instructions =>
          collectFrom symbols (address + 4 * instructions.length) (number + 1) rest

/-- Collects the labels of a program. -/
def collect (lines : List String) : Collection :=
  .after [.collecting] (collectFrom [] 0 1 lines)

/-- The addresses of the labels of a program. -/
def resolveLabels (text : String) : Except Report SymbolTable :=
  (collect (lines text)).outcome

end RiscvAssembler
