import RiscvAssembler.CommandLine.Arguments
import RiscvAssembler.FileTree
import RiscvAssembler.Program.Session
import RiscvAssembler.Table.Load
import RiscvAssembler.Text.Lines

/-!
# The command line program

Assembles the input file against the built-in table or a table from a file, and prints the words or
writes them to a file.

## Main definitions

* `Trouble`: why a run fails.
* `Outcome`: how a run ends, what is printed, and the files afterwards.
* `Step`: a step of a run.
* `run`: the program.
-/

namespace RiscvAssembler.CommandLine

open Text

/-! ### Help -/

/-- The name of the program. -/
def programName : String := "rv32asm"

/-- The version of the program. -/
def version : String := "1.0.0"

/-- One line that shows the arguments. -/
def usageLine : String :=
  "usage: " ++ programName ++ " [-h] [-o OUTPUT] [-v] [-l] [--isa ISA] [--version] input"

/-- The answer to a question for help. -/
def helpLines : List String :=
  [usageLine,
   "",
   "Two-pass RV32I assembler",
   "",
   "positional arguments:",
   "  input                 Input assembly file (.S)",
   "",
   "options:",
   "  -h, --help            show this help message and exit",
   "  -o OUTPUT, --output OUTPUT",
   "                        Output hex file (.hex). If not specified, prints to",
   "                        stdout.",
   "  -v, --verbose         Enable verbose output",
   "  -l, --listing         Print assembly listing",
   "  --isa ISA             YAML instruction table to use instead of the built-in",
   "                        RV32I table",
   "  --version             show program's version number and exit",
   "",
   "Examples:",
   "  " ++ programName ++ " programs/fib.S -o programs/fib.hex",
   "  " ++ programName ++ " programs/fib.S -o programs/fib.hex -v",
   "  " ++ programName ++ " programs/fib.S --listing",
   "  " ++ programName ++ " programs/fib.S --isa tables/rv32i.yaml",
   "        "]

/-! ### Failing -/

/-- Why a run fails. -/
inductive Trouble
  | file (error : FileError)
  | table (fault : TableFault)
  | program (report : Report)
  | unexpected
  deriving Repr

/-- The line that tells of the trouble. -/
def Trouble.message : Trouble → String
  | file error => "Error: " ++ error.message
  | table fault => "Error: " ++ fault.message
  | program report => "Error: " ++ report.render
  | unexpected => "Unexpected error"

/-! ### Steps of a run -/

/-- How a run ends: with an exit code, or with an error that it does not catch. -/
inductive Ending
  | exit (code : Nat)
  | uncaught (error : FileError)
  deriving DecidableEq, Repr

/-- What a run leaves behind. -/
structure Outcome where
  ending : Ending
  stdout : String
  stderr : String
  files : FileTree
  deriving Repr

/-- What a run works on: the files, and the lines that it has printed. -/
structure World where
  files : FileTree
  printed : List String

/-- A step of a run, which may print lines, write files and fail. What it has done stays done if it
fails. -/
abbrev Step (α : Type) := ExceptT Trouble (StateM World) α

/-- Prints lines. -/
def say (lines : List String) : Step Unit :=
  modify fun w => { w with printed := w.printed ++ lines }

/-- A path with a null character in it is refused before it is looked up. -/
def checkPath (path : String) : Step Unit :=
  if path.toList.contains '\x00' then throw .unexpected else pure ()

/-- The text of a file, with line feeds alone between its lines. -/
def readText (path : String) : Step String := do
  checkPath path
  match (← get).files.read path with
  | .ok text => pure (normalizeNewlines text)
  | .error e => throw (.file e)

/-- Writes a text to a file. -/
def writeText (path text : String) : Step Unit := do
  checkPath path
  match (← get).files.write path text with
  | .ok files => modify fun w => { w with files }
  | .error e => throw (.file e)

/-- The trouble with a table that cannot be loaded. -/
def Trouble.ofLoadFailure : LoadFailure → Trouble
  | .invalid fault => .table fault
  | .formatNotScalar | .yaml _ | .mismatch _ => .unexpected

/-- The trouble with a program that cannot be assembled. -/
def Trouble.ofFailure : Failure Report → Trouble
  | .fault report => .program report
  | .misuse _ => .unexpected

/-- An option that is given and not empty. -/
def nonEmpty? (value : Option String) : Option String :=
  value.filter fun v => !v.isEmpty

/-- The table that the options ask for. -/
def loadTable (o : Options) : Step (Option InstructionTable) := do
  match nonEmpty? o.isa with
  | none => return none
  | some path =>
    match InstructionTable.ofText (← readText path) with
    | .error failure => throw (.ofLoadFailure failure)
    | .ok t =>
      if o.verbose then
        say ["Instruction table '" ++ t.name ++ "': " ++ decimal t.size ++ " instructions"]
      return some t

/-- The session after the input has been assembled. -/
def assembleInput (s : Session) (path : String) : Step Session := do
  say (s.log ("Assembling: " ++ path)).printed
  let reply := s.assemble (← readText path)
  say reply.printed
  match reply.result with
  | .ok _ => return reply.session
  | .error failure => throw (.ofFailure failure)

/-- Writes the words to the output, if there is one. -/
def writeOutput (o : Options) (s : Session) : Step Unit := do
  match nonEmpty? o.output with
  | none => return
  | some path =>
    writeText path s.hexFile
    say (s.log ("Output written to: " ++ path)).printed

/-! ### The program -/

/-- Something stands at the path of the input. A path with a null character in it leads nowhere. -/
def inputExists (files : FileTree) (o : Options) : Except FileError Bool :=
  let path := normalizePath o.input
  if path.toList.contains '\x00' then .ok false else files.pathExists path

/-- Reads, assembles and writes. -/
def build (o : Options) : Step Session := do
  let table? ← loadTable o
  let s ← assembleInput (Session.start table? o.verbose) (normalizePath o.input)
  writeOutput o s
  return s

/-- The lines that show what has been assembled. -/
def summary (o : Options) (s : Session) : List String :=
  let toFile := (nonEmpty? o.output).isSome
  (if o.listing then ["\n" ++ s.listing] else []) ++
    (if !toFile && !o.listing then [s.hexImage] else []) ++
    if o.verbose || toFile then
      ["\nAssembly successful: " ++ decimal s.words.length ++ " instructions"]
    else []

/-- Does what the options ask for. -/
def perform (o : Options) : Step Unit := do
  let s ← build o
  say (summary o s)

/-- A run with the given files and options. -/
def runOptions (files : FileTree) (o : Options) : Outcome :=
  match inputExists files o with
  | .error e => ⟨.uncaught e, "", "", files⟩
  | .ok false => ⟨.exit 1, "", endLines ["Error: Input file not found: " ++ o.input], files⟩
  | .ok true =>
    match (perform o).run.run ⟨files, []⟩ with
    | (.ok (), w) => ⟨.exit 0, endLines w.printed, "", w.files⟩
    | (.error trouble, w) => ⟨.exit 1, endLines w.printed, endLines [trouble.message], w.files⟩

/-- The program: the outcome of a run with the given files and arguments. -/
def run (files : FileTree) (args : List String) : Outcome :=
  match Options.ofArguments args with
  | .error .help => ⟨.exit 0, endLines helpLines, "", files⟩
  | .error .version => ⟨.exit 0, endLines [programName ++ " " ++ version], "", files⟩
  | .error (.usage message) =>
    ⟨.exit 2, "", endLines [usageLine, programName ++ ": error: " ++ message], files⟩
  | .ok o => runOptions files o

end RiscvAssembler.CommandLine
