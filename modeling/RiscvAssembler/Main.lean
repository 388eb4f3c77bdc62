import RiscvAssembler.CommandLine.Run

/-!
# The executable

Reads what stands on the paths that the arguments name into a file tree, runs the program on it,
prints what it prints and writes the files that it has changed.
-/

namespace RiscvAssembler.CommandLine

/-- The place that a path leads to, as far as its text tells. -/
def placeOf (path : String) : Place :=
  (FileTree.parts path).foldl FileTree.enter (if path.toList.head? == some '/' then ["/"] else [])

/-- A path that leads to a place. -/
def pathOf : Place → String
  | [] => "."
  | "/" :: names => "/" ++ String.intercalate "/" names
  | names => String.intercalate "/" names

/-- The places that a run may look at: those of the files it is given, and those on the way. -/
def Options.places (o : Options) : List Place :=
  let paths := o.input :: (nonEmpty? o.isa).toList ++ (nonEmpty? o.output).toList
  paths.flatMap fun path =>
    let p := placeOf path
    (List.range (p.length + 1)).map p.take

/-- What stands at a place of the file system. -/
def inspect (p : Place) : IO (Option FileTree.Entry) := do
  try
    return some (.file (← IO.FS.readFile (pathOf p)))
  catch
  | .inappropriateType _ 21 _ => return some .directory
  | _ => return none

/-- The part of the file system at the given places. -/
def snapshot (places : List Place) : IO FileTree := do
  let mut tree : FileTree := {}
  for p in places do
    match ← inspect p with
    | some (.file text) => tree := { tree with files := Dictionary.insert p text tree.files }
    | some .directory => tree := { tree with directories := p :: tree.directories }
    | none => pure ()
  return tree

/-- Writes the files in which a tree differs from the one before. -/
def commit (before after : FileTree) : IO Unit := do
  for (p, text) in after.files do
    if before.files.lookup p != some text then IO.FS.writeFile (pathOf p) text

end RiscvAssembler.CommandLine

open RiscvAssembler.CommandLine in
/-- Runs the program with the given arguments. -/
def main (args : List String) : IO UInt32 := do
  let before ←
    match Options.ofArguments args with
    | .ok o => snapshot o.places
    | .error _ => pure {}
  let outcome := run before args
  commit before outcome.files
  (← IO.getStdout).putStr outcome.stdout
  (← IO.getStderr).putStr outcome.stderr
  match outcome.ending with
  | .exit code => return code.toUInt32
  | .uncaught error => throw (IO.userError error.message)
