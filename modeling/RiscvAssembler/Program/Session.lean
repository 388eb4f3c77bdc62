import RiscvAssembler.Program.Emission
import RiscvAssembler.Program.Symbols
import RiscvAssembler.Table.Rv32i
import RiscvAssembler.Word.Disassembly

/-!
# Assembler sessions

A session assembles programs one after the other against one table and keeps what the last of them
left: its words, where they come from, its symbols, and the address reached. A program that fails
leaves nothing but the address.

## Main definitions

* `Session`, `Session.start`: the state, and the state before any program.
* `Session.assemble`, `Session.collectLabels`: the operations that change it.
* `Session.hexImage`, `Session.hexFile`, `Session.listing`: the words as text.
* `assemble`: the words of a program in a session of its own.
-/

namespace RiscvAssembler

open Text

/-- The state of an assembler. -/
structure Session where
  table : InstructionTable
  verbose : Bool := false
  entries : List Emitted := []
  symbols : SymbolTable := []
  address : Int := 0

/-- What an operation answers and prints, and the state it leaves. -/
structure Reply (α : Type) where
  result : Except (Failure Report) α
  printed : List String
  session : Session

namespace Session

/-- A session against a table that has instructions, or else against the built-in one. -/
def start (table? : Option InstructionTable) (verbose : Bool) : Session where
  table := .orBuiltIn table?
  verbose := verbose

/-- The words of the program. -/
def words (s : Session) : List Int :=
  s.entries.map (·.word)

/-- The address, the line and the line number of each word. -/
def sourceMap (s : Session) : List (Int × String × Nat) :=
  s.entries.map fun e => (e.address, e.line, e.number)

/-- The lines that events put into the log. -/
def logged (s : Session) (events : List Event) : List String :=
  if s.verbose then events.map Event.text else []

/-- Prints a message if the session is verbose. -/
def log (s : Session) (message : String) : Reply Unit where
  result := .ok ()
  printed := if s.verbose then [message] else []
  session := s

/-- Turns the log on or off. -/
def setVerbose (s : Session) (verbose : Bool) : Session :=
  { s with verbose }

/-! ### Assembling -/

/-- Finds the labels of the given lines, which changes nothing but the address. -/
def collectLabels (s : Session) (lines : List String) : Reply SymbolTable :=
  let c := collect lines
  { result :=
      match c.outcome with
      | .ok symbols => .ok symbols
      | .error report => .error (.fault report)
    printed := s.logged c.events
    session := { s with address := c.address } }

/-- The state after a program with the given symbols. A fault clears all but the address; a misuse
leaves what was emitted before it. -/
def afterEmission (s : Session) (symbols : SymbolTable) (e : Emission) : Session :=
  match e.failure? with
  | some (.fault _) => { s with entries := [], symbols := [], address := e.address }
  | _ => { s with entries := e.entries, symbols, address := e.address }

@[simp] theorem table_afterEmission (s : Session) (symbols : SymbolTable) (e : Emission) :
    (s.afterEmission symbols e).table = s.table := by
  unfold afterEmission; split <;> rfl

@[simp] theorem address_afterEmission (s : Session) (symbols : SymbolTable) (e : Emission) :
    (s.afterEmission symbols e).address = e.address := by
  unfold afterEmission; split <;> rfl

/-- Assembles a program. -/
def assemble (s : Session) (text : String) : Reply (List Int) :=
  let c := collect (lines text)
  match c.outcome with
  | .error report =>
    { result := .error (.fault report)
      printed := s.logged c.events
      session := { s with entries := [], symbols := [], address := c.address } }
  | .ok symbols =>
    let e := emit s.table symbols (lines text)
    { result :=
        match e.failure? with
        | some failure => .error failure
        | none => .ok (e.entries.map (·.word))
      printed := s.logged (c.events ++ e.events)
      session := s.afterEmission symbols e }

/-! ### The words as text -/

/-- The words in base sixteen, one a line, without a line feed at the end. -/
def hexImage (s : Session) : String :=
  unlines (s.words.map (hexLower 8))

/-- The words in base sixteen, each followed by a line feed. -/
def hexFile (s : Session) : String :=
  endLines (s.words.map (hexLower 8))

/-- The text of a word in a listing; a word that cannot be decoded shows a question mark. -/
def wordText (s : Session) (word : Int) : String :=
  match s.table.disassemble word with
  | .ok text => text
  | .error _ => "?"

/-- The line of a listing for one word. -/
def listingLine (s : Session) (e : Emitted) : String :=
  "0x" ++ hexUpper 4 e.address ++ ":   " ++ hexUpper 8 e.word ++ "   " ++
    padRight 24 (s.wordText e.word) ++ "  " ++ trim e.line

/-- The head of a listing. -/
def listingHead : List String :=
  ["Address   Code       Decoded                   Source", String.ofList (List.replicate 78 '-')]

/-- Every word with its address, its text and its source line. -/
def listing (s : Session) : String :=
  unlines (listingHead ++ s.entries.map s.listingLine)

end Session

/-- The words of a program against a table that has instructions, or else the built-in one. -/
def assemble (table? : Option InstructionTable) (text : String) :
    Except (Failure Report) (List Int) :=
  ((Session.start table? false).assemble text).result

end RiscvAssembler
