import RiscvAssembler.Yaml.Token

/-!
# Quoted scalars

Text between single or double quotes. Line breaks inside fold into a space, or into the breaks after
the first one. Between single quotes a doubled quote stands for one; between double quotes a
backslash starts an escape.

## Implementation notes

The readers are bounded by a count of the characters left, which every round uses up by at least
one, so the bound is never met.
-/

namespace RiscvAssembler.Yaml.Quoted

/-- A space or a tab. -/
def isSpace (c : Char) : Bool :=
  c == ' ' || c == '\t'

/-- The character that an escape of one letter stands for. -/
def shortEscape? : Char → Option Char
  | '0' => some '\x00'
  | 'a' => some '\x07'
  | 'b' => some '\x08'
  | 't' | '\t' => some '\t'
  | 'n' => some '\n'
  | 'v' => some '\x0B'
  | 'f' => some '\x0C'
  | 'r' => some '\r'
  | 'e' => some '\x1B'
  | ' ' => some ' '
  | '"' => some '"'
  | '\\' => some '\\'
  | '/' => some '/'
  | 'N' => some '\u0085'
  | '_' => some '\u00A0'
  | 'L' => some '\u2028'
  | 'P' => some '\u2029'
  | _ => none

/-- The number of digits of an escape that gives a code point. -/
def codeLength? : Char → Option Nat
  | 'x' => some 2
  | 'u' => some 4
  | 'U' => some 8
  | _ => none

/-- The value of the next `n` characters as digits in base sixteen. -/
def hexCode? (n : Nat) (cs : List Char) : Option Nat :=
  let digits := cs.take n
  if digits.length = n then Text.digitsValue? 16 digits else none

/-- Moves over the line breaks that follow a first one, and over the blanks that indent the text
after them. A document marker must not come here. -/
def breaks : Nat → Cursor → Except Problem (List Char × Cursor)
  | 0, c => .ok ([], c)
  | fuel + 1, c =>
    if c.atDocumentMarker then .error .malformed
    else
      let c := c.skipWhile isSpace
      match c.lineBreak? with
      | none => .ok ([], c)
      | some (b, c) => do
        let (more, c) ← breaks fuel c
        pure (b :: more, c)

/-- Reads the escape after a backslash. -/
def escape (c : Cursor) : Except Problem (List Char × Cursor) :=
  match c.peek with
  | none => .error .malformed
  | some ch =>
    match shortEscape? ch, codeLength? ch with
    | some plain, _ => .ok ([plain], c.next)
    | none, some n =>
      match hexCode? n c.next.rest with
      | none => .error .malformed
      | some code =>
        if 0x7FFFFFFF < code then .error .hugeCodePoint
        else if 0x10FFFF < code then .error .noSuchCodePoint
        else .ok ([Text.characterOf code], c.next.skip n)
    | none, none =>
      match c.lineBreak? with
      | some (_, c) => breaks (c.rest.length + 1) c
      | none => .error .malformed

/-- Characters that stand for themselves between quotes of either kind. -/
def isOrdinary (c : Char) : Bool :=
  !(c == '\'' || c == '"' || c == '\\' || isSpace c || isBreak c)

/-- Reads up to the closing quote or the next blank. -/
def word (double : Bool) : Nat → Cursor → Except Problem (List Char × Cursor)
  | 0, c => .ok ([], c)
  | fuel + 1, c => do
    let (chunk, c) := c.span isOrdinary
    let continueWith (extra : List Char) (c : Cursor) : Except Problem (List Char × Cursor) := do
      let (more, c) ← word double fuel c
      pure (chunk ++ extra ++ more, c)
    match c.peek with
    | some '\'' =>
      if double then continueWith ['\''] c.next
      else if c.peekAt 1 == some '\'' then continueWith ['\''] (c.skip 2)
      else pure (chunk, c)
    | some '"' => if double then pure (chunk, c) else continueWith ['"'] c.next
    | some '\\' =>
      if double then
        let (extra, c) ← escape c.next
        continueWith extra c
      else continueWith ['\\'] c.next
    | _ => pure (chunk, c)

/-- Reads a run of blanks, or a folded line break. -/
def gap (c : Cursor) : Except Problem (List Char × Cursor) := do
  let (blanks, c) := c.span isSpace
  match c.lineBreak? with
  | some (b, c) =>
    let (more, c) ← breaks (c.rest.length + 1) c
    if b != '\n' then pure (b :: more, c)
    else pure (if more.isEmpty then [' '] else more, c)
  | none => if c.peek.isNone then .error .malformed else pure (blanks, c)

/-- Reads blanks and words in turn up to the closing quote, and moves over it. -/
def body (double : Bool) : Nat → Cursor → Except Problem (List Char × Cursor)
  | 0, _ => .error .malformed
  | fuel + 1, c => do
    let (chunk, c) ← word double (c.rest.length + 1) c
    if c.peek == some (if double then '"' else '\'') then pure (chunk, c.next)
    else
      let (blanks, c) ← gap c
      let (more, c) ← body double fuel c
      pure (chunk ++ blanks ++ more, c)

/-- Reads a quoted scalar whose opening quote comes next. -/
def read (double : Bool) (c : Cursor) : Except Problem (String × Cursor) := do
  let (text, c) ← body double (c.rest.length + 1) c.next
  pure (String.ofList text, c)

end RiscvAssembler.Yaml.Quoted
