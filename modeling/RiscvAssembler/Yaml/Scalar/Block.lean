import RiscvAssembler.Yaml.Token

/-!
# Block scalars

Text that follows `|` or `>` on the lines below, indented deeper than its surroundings. A header may
give the depth, and what becomes of the line breaks at the end. After `>` a single break between
lines that start with a word folds into a space.
-/

namespace RiscvAssembler.Yaml.Block

/-- What becomes of the line breaks at the end of the text. -/
inductive Chomping
  | strip
  | clip
  | keep
  deriving DecidableEq, Repr

/-- The sign of a header that says what becomes of the final breaks. -/
def chomping? : Option Char → Option Chomping
  | some '+' => some .keep
  | some '-' => some .strip
  | _ => none

/-- The digit of a header that gives the depth. -/
def increment? : Option Char → Option Nat
  | some c => if c.isDigit then some (c.toNat - '0'.toNat) else none
  | none => none

/-- Reads the header: a sign and a digit from one to nine, in either order, each optional. -/
def header (c : Cursor) : Except Problem (Chomping × Option Nat × Cursor) := do
  let (chomping, increment, c) :=
    match chomping? c.peek with
    | some chomping =>
      match increment? c.next.peek with
      | some n => (chomping, some n, c.next.next)
      | none => (chomping, none, c.next)
    | none =>
      match increment? c.peek with
      | some n =>
        match chomping? c.next.peek with
        | some chomping => (chomping, some n, c.next.next)
        | none => (.clip, some n, c.next)
      | none => (.clip, none, c)
  if increment == some 0 || !endsPart c.peek then .error .malformed
  else pure (chomping, increment, c)

/-- Moves over blanks, a comment and a line break that end a line. -/
def restOfLine (c : Cursor) : Except Problem Cursor :=
  let c := c.skipWhile (· == ' ')
  let c := if c.peek == some '#' then c.skipWhile fun ch => !isBreak ch else c
  if endsLine c.peek then .ok ((c.lineBreak?.map (·.2)).getD c) else .error .malformed

/-- Moves over spaces as long as the column is below `indent`. -/
def indentTo (indent : Nat) : Nat → Cursor → Cursor
  | 0, c => c
  | fuel + 1, c =>
    if c.column < indent && c.peek == some ' ' then indentTo indent fuel c.next else c

/-- Moves over empty lines and over the indentation of the line after them. -/
def breaks (indent : Nat) : Nat → Cursor → List Char × Cursor
  | 0, c => ([], c)
  | fuel + 1, c =>
    let c := indentTo indent c.rest.length c
    match c.lineBreak? with
    | none => ([], c)
    | some (b, c) =>
      let (more, c) := breaks indent fuel c
      (b :: more, c)

/-- Moves over the blank lines that come first, and finds the greatest column reached in them. -/
def leadingBreaks : Nat → Cursor → List Char × Nat × Cursor
  | 0, c => ([], 0, c)
  | fuel + 1, c =>
    if c.peek == some ' ' then
      let (more, column, c') := leadingBreaks fuel c.next
      (more, max c.next.column column, c')
    else
      match c.lineBreak? with
      | none => ([], 0, c)
      | some (b, c) =>
        let (more, column, c') := leadingBreaks fuel c
        (b :: more, column, c')

/-- The line at the position starts with a space or a tab. -/
def startsBlank (c : Cursor) : Bool :=
  c.peek == some ' ' || c.peek == some '\t'

/-- Reads the lines at column `indent`. The result ends with the last line break and the empty lines
after it, which the header decides about. -/
def body (folded : Bool) (indent : Nat) :
    Nat → Cursor → List Char → List Char × List Char × List Char × Cursor
  | 0, c, pending => ([], [], pending, c)
  | fuel + 1, c, pending =>
    if c.column == indent && c.peek.isSome then
      let indented := startsBlank c
      let (line, c) := c.span fun ch => !isBreak ch
      let (final, c) :=
        match c.lineBreak? with
        | some (b, c) => ([b], c)
        | none => ([], c)
      let (empty, c) := breaks indent (c.rest.length + 1) c
      if c.column == indent && c.peek.isSome then
        let joint :=
          if folded && final == ['\n'] && !indented && !startsBlank c then
            (if empty.isEmpty then [' '] else [])
          else final
        let (text, last, rest, c) := body folded indent fuel c empty
        (pending ++ line ++ joint ++ text, last, rest, c)
      else (pending ++ line, final, empty, c)
    else ([], [], pending, c)

/-- Reads a block scalar whose indicator comes next, inside a block at column `outer`. -/
def read (folded : Bool) (outer : Int) (c : Cursor) : Except Problem (String × Cursor) := do
  let (chomping, increment, c) ← header c.next
  let c ← restOfLine c
  let least := max 1 (outer + 1).toNat
  let (empty, indent, c) :=
    match increment with
    | some n =>
      let indent := least + n - 1
      let (empty, c) := breaks indent (c.rest.length + 1) c
      (empty, indent, c)
    | none =>
      let (empty, column, c) := leadingBreaks (c.rest.length + 1) c
      (empty, max least column, c)
  let (text, final, rest, c) := body folded indent (c.rest.length + 1) c empty
  let ending :=
    match chomping with
    | .strip => []
    | .clip => final
    | .keep => final ++ rest
  pure (String.ofList (text ++ ending), c)

end RiscvAssembler.Yaml.Block
