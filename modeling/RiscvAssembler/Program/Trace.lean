import RiscvAssembler.Text.Numeral

/-!
# What the assembler tells about its work

The events of assembling a program, in order, and the text that stands for each of them in the log.
-/

namespace RiscvAssembler

open Text

/-- The steps that a log shows. -/
inductive Event
  | collecting
  | label (name : String) (address : Int)
  | symbolCount (count : Nat)
  | programSize (bytes : Int)
  | encoding
  | word (address word : Int) (tokens : List String)
  | instructionCount (count : Nat)
  deriving DecidableEq, Repr

/-- The mnemonic of a base instruction and its operands, separated by commas. -/
def instructionText (tokens : List String) : String :=
  tokens.headD "" ++ " " ++ String.intercalate ", " tokens.tail

/-- The text of an event. -/
def Event.text : Event → String
  | collecting => "\n=== Pass 1: Collecting labels ==="
  | label name address => "  Label '" ++ name ++ "' at 0x" ++ hexUpper 4 address
  | symbolCount count => "  Total symbols: " ++ decimal count
  | programSize bytes => "  Program size: " ++ decimal bytes ++ " bytes"
  | encoding => "\n=== Pass 2: Encoding instructions ==="
  | word address w tokens =>
    "  0x" ++ hexUpper 4 address ++ ": " ++ hexUpper 8 w ++ "  " ++ instructionText tokens
  | instructionCount count => "\n  Total instructions: " ++ decimal count

end RiscvAssembler
