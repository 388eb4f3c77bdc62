import RiscvAssembler.Pseudo
import RiscvAssembler.Token

/-!
# Source lines

A line holds at most a label, a mnemonic and three operands. It stands for the base instructions of
its pseudo-instruction.
-/

namespace RiscvAssembler

/-- The most tokens that a line can hold. -/
def tokenLimit : Nat := 5

/-- The line holds no more tokens than it can use. -/
def checkTokenCount (tokens : List String) : Except Fault Unit :=
  if tokens.length ≤ tokenLimit then .ok ()
  else .error (.tooManyTokens tokens.length tokenLimit)

/-- The base instructions of a line with the given tokens; without an instruction it has none. -/
def expandTokens (tokens : List String) : Except Fault (List (List String)) := do
  checkTokenCount tokens
  match stripLabel tokens with
  | [] => pure []
  | rest => expand rest

/-- The base instructions of a line. -/
def expandLine (line : String) : Except Fault (List (List String)) :=
  expandTokens (tokenize line)

end RiscvAssembler
