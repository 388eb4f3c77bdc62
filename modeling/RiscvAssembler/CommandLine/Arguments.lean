import RiscvAssembler.Text.Quoted
import RiscvAssembler.Text.WordCharacter

/-!
# Command line arguments

One input and some options. A long option may be shortened as long as it stays unambiguous and may
have its value after an equals sign; short options without a value may be run together, also across
an equals sign. After `--` everything is an input.

## Main definitions

* `Options`: what the arguments ask for.
* `Stop`: why there is nothing to do: a question for help or the version, or wrong usage.
* `Options.ofArguments`: the options that a list of arguments gives.
-/

namespace RiscvAssembler.CommandLine

open Text

/-- What the arguments ask for. -/
structure Options where
  input : String
  output : Option String := none
  verbose : Bool := false
  listing : Bool := false
  isa : Option String := none
  deriving DecidableEq, Repr

/-- Why there is nothing to do. -/
inductive Stop
  | help
  | version
  | usage (message : String)
  deriving DecidableEq, Repr

/-- The options that can be given. -/
inductive Flag
  | help
  | output
  | verbose
  | listing
  | isa
  | version
  deriving DecidableEq, Repr

namespace Flag

/-- The option has a value. -/
def takesValue : Flag → Bool
  | output | isa => true
  | help | verbose | listing | version => false

/-- The names of all options, in the order in which a message lists them. -/
def names : List (String × Flag) :=
  [("-h", help), ("--help", help), ("-o", output), ("--output", output), ("-v", verbose),
   ("--verbose", verbose), ("-l", listing), ("--listing", listing), ("--isa", isa),
   ("--version", version)]

/-- The names of an option, as a message shows them. -/
def shown (f : Flag) : String :=
  String.intercalate "/" ((names.filter fun p => p.2 == f).map (·.1))

end Flag

/-! ### What an argument is -/

/-- What an argument is, by its look. -/
inductive Argument
  /-- An input, or the value of the option before it. -/
  | text (text : String)
  /-- The mark after which everything is text. -/
  | separator
  /-- An option by a name of its own, with the value after its equals sign. -/
  | option (flag : Flag) (value : Option String)
  /-- A short option with more characters run together with it. -/
  | cluster (flag : Flag) (more : List Char)
  /-- Something like an option that there is not. -/
  | unknown (text : String)
  deriving DecidableEq, Repr

/-- The part before the first equals sign, and the part after it if there is one. -/
def splitEquals (cs : List Char) : List Char × Option (List Char) :=
  match cs.dropWhile (· != '=') with
  | [] => (cs, none)
  | _ :: value => (cs.takeWhile (· != '='), some value)

/-- A minus sign and a number, which is text and no option. A line feed may end it. -/
def isNegativeNumber (cs : List Char) : Bool :=
  match (if cs.getLast? == some '\n' then cs.dropLast else cs) with
  | '-' :: digits =>
    (!digits.isEmpty && digits.all isDecimalDigit) ||
      match digits.dropWhile isDecimalDigit with
      | '.' :: fraction => !fraction.isEmpty && fraction.all isDecimalDigit
      | _ => false
  | _ => false

/-- What an argument is that has the look of an option and none of their names. -/
def Argument.ofUnknown (arg : String) : Argument :=
  if isNegativeNumber arg.toList || arg.toList.contains ' ' then .text arg else .unknown arg

/-- What an argument is that starts with two dashes: the only option whose name starts with it. -/
def Argument.ofLong (arg : String) : Except Stop Argument :=
  let (stem, value) := splitEquals arg.toList
  match Flag.names.filter fun p => stem.isPrefixOf p.1.toList with
  | [] => .ok (.ofUnknown arg)
  | [(_, flag)] => .ok (.option flag (value.map String.ofList))
  | found =>
    .error (.usage ("ambiguous option: " ++ arg ++ " could match " ++
      String.intercalate ", " (found.map (·.1))))

/-- An option by its full name and what stands after the equals sign. After a short option those are
more characters run together with it. -/
def Argument.ofEquals (short : Bool) (flag : Flag) : List Char → Argument
  | [] => .option flag (some "")
  | value => if short then .cluster flag value else .option flag (some (String.ofList value))

/-- What an argument is, by its look. -/
def Argument.ofString (arg : String) : Except Stop Argument :=
  match arg.toList with
  | '-' :: second :: more =>
    match Flag.names.lookup arg, splitEquals arg.toList with
    | some flag, _ => .ok (.option flag none)
    | none, (stem, value) =>
      match Flag.names.lookup (String.ofList stem), value with
      | some flag, some value => .ok (.ofEquals (second != '-') flag value)
      | _, _ =>
        if second == '-' then Argument.ofLong arg
        else
          match Flag.names.lookup (String.ofList ['-', second]) with
          | some flag => .ok (.cluster flag more)
          | none => .ok (.ofUnknown arg)
  | _ => .ok (.text arg)

/-- What the arguments are. After the separator all are text. -/
def Argument.ofStrings : List String → Except Stop (List Argument)
  | [] => .ok []
  | arg :: rest =>
    if arg == "--" then .ok (.separator :: rest.map .text)
    else do
      let a ← Argument.ofString arg
      let more ← Argument.ofStrings rest
      pure (a :: more)

/-! ### What has been gathered -/

/-- What has been gathered from the arguments so far. -/
structure Gathered where
  input : Option String := none
  output : Option String := none
  verbose : Bool := false
  listing : Bool := false
  isa : Option String := none
  /-- Arguments that nothing could be made of. -/
  extra : List String := []
  deriving Repr

namespace Gathered

/-- Adds an option without a value. -/
def flag (g : Gathered) : Flag → Except Stop Gathered
  | .help => .error .help
  | .version => .error .version
  | .verbose => .ok { g with verbose := true }
  | .listing => .ok { g with listing := true }
  | .output | .isa => .ok g

/-- Adds an option with a value. Two dashes as the value take an earlier one back. -/
def value (g : Gathered) (v : String) : Flag → Gathered
  | .output => { g with output := if v == "--" then none else some v }
  | .isa => { g with isa := if v == "--" then none else some v }
  | _ => g

/-- Adds an argument that nothing can be made of. -/
def addExtra (g : Gathered) (arg : String) : Gathered :=
  { g with extra := g.extra ++ [arg] }

end Gathered

/-! ### Options that are run together -/

/-- Wrong usage of an option. -/
def misusedFlag {α : Type} (flag : Flag) (message : String) : Except Stop α :=
  .error (.usage ("argument " ++ flag.shown ++ ": " ++ message))

/-- A value was given to an option that has none. -/
def ignoredValue {α : Type} (flag : Flag) (value : String) : Except Stop α :=
  misusedFlag flag ("ignored explicit argument " ++ quoted value)

/-- The options of a cluster: those without a value, and what the last of them leaves. -/
inductive Tail
  | done
  | value (flag : Flag) (value : String)
  | wanting (flag : Flag)
  deriving DecidableEq, Repr

/-- An option with the value after its equals sign. -/
def explicitValue (flag : Flag) (v : String) : Except Stop Tail :=
  if flag.takesValue then .ok (.value flag v) else ignoredValue flag v

/-- The options that are run together after a first one. The first that takes a value has the rest
as its value, or the next argument if there is no rest. Before it every character names an option.
-/
def uncluster (flag : Flag) : List Char → Except Stop (List Flag × Tail)
  | [] => .ok (if flag.takesValue then ([], .wanting flag) else ([flag], .done))
  | c :: rest =>
    if flag.takesValue then .ok ([], .value flag (String.ofList (c :: rest)))
    else
      match Flag.names.lookup (String.ofList ['-', c]) with
      | none => ignoredValue flag (String.ofList (c :: rest))
      | some next => do
        let (flags, tail) ← uncluster next rest
        pure (flag :: flags, tail)

/-- The options that an argument starts, and what the last of them leaves. -/
def Argument.flags : Argument → Except Stop (List Flag × Tail)
  | .option flag none => .ok (if flag.takesValue then ([], .wanting flag) else ([flag], .done))
  | .option flag (some v) => do
    let tail ← explicitValue flag v
    pure ([], tail)
  | .cluster flag more => uncluster flag more
  | _ => .ok ([], .done)

/-! ### All arguments -/

/-- Gathers what the arguments ask for. The first text that is no value is the input. -/
def gather (g : Gathered) : List Argument → Except Stop Gathered
  | [] => .ok g
  | .text arg :: rest =>
    if g.input.isNone then
      match rest with
      | .separator :: rest => gather { g with input := some arg } rest
      | rest => gather { g with input := some arg } rest
    else gather (g.addExtra arg) rest
  | .separator :: rest =>
    match g.input, rest with
    | none, .text arg :: rest => gather { g with input := some arg } rest
    | _, rest => gather (g.addExtra "--") rest
  | .unknown arg :: rest => gather (g.addExtra arg) rest
  | argument :: rest => do
    let (flags, tail) ← argument.flags
    match tail with
    | .wanting flag =>
      match rest with
      | .text v :: rest =>
        let g ← flags.foldlM Gathered.flag g
        gather (g.value v flag) rest
      | _ => misusedFlag flag "expected one argument"
    | .done =>
      let g ← flags.foldlM Gathered.flag g
      gather g rest
    | .value flag v =>
      let g ← flags.foldlM Gathered.flag g
      gather (g.value v flag) rest

/-- The options that a list of arguments gives. -/
def Options.ofArguments (args : List String) : Except Stop Options := do
  let g ← gather {} (← Argument.ofStrings args)
  match g.input with
  | none => .error (.usage "the following arguments are required: input")
  | some input =>
    if g.extra.isEmpty then
      pure { input, output := g.output, verbose := g.verbose, listing := g.listing, isa := g.isa }
    else .error (.usage ("unrecognized arguments: " ++ String.intercalate " " g.extra))

end RiscvAssembler.CommandLine
