import RiscvAssembler.Yaml.Token

/-!
# Plain scalars

Text without quotes. It ends before a colon or a comment that follows a blank, before an indicator
of the surrounding flow collection, and where the indentation falls back. Line breaks inside fold
as in quoted scalars.
-/

namespace RiscvAssembler.Yaml.Plain

/-- The indicators that end a plain scalar inside a flow collection. -/
def isFlowIndicator (c : Char) : Bool :=
  c == ',' || c == '[' || c == ']' || c == '\x7b' || c == '\x7d'

/-- The number of characters before the next blank or indicator. -/
def wordLength (flow : Bool) : List Char → Nat
  | [] => 0
  | c :: cs =>
    if endsWord (some c) then 0
    else if c == ':' && (endsWord cs.head? || (flow && cs.head?.any isFlowIndicator)) then 0
    else if flow && (c == '?' || isFlowIndicator c) then 0
    else wordLength flow cs + 1

/-- Moves over spaces and line breaks after a first break. The text stops at a document marker. -/
def breaks : Nat → Cursor → Option (List Char) × Cursor
  | 0, c => (some [], c)
  | fuel + 1, c =>
    let c := c.skipWhile (· == ' ')
    match c.lineBreak? with
    | none => (some [], c)
    | some (b, c) =>
      if c.atDocumentMarker then (none, c)
      else
        let (more, c) := breaks fuel c
        (more.map (b :: ·), c)

/-- Reads the blanks after a word: the text they stand for, empty if the scalar ends here, and
whether a line was ended. -/
def gap (c : Cursor) : List Char × Bool × Cursor :=
  let (blanks, c) := c.span (· == ' ')
  match c.lineBreak? with
  | none => (blanks, false, c)
  | some (b, c) =>
    if c.atDocumentMarker then ([], true, c)
    else
      let (more, c) := breaks (c.rest.length + 1) c
      match more with
      | none => ([], true, c)
      | some more =>
        (if b != '\n' then b :: more else if more.isEmpty then [' '] else more, true, c)

/-- Reads words and the blanks between them. `pending` are the blanks before the next word, and
`broken` says whether they ended a line. -/
def body (flow : Bool) (indent : Int) :
    Nat → Cursor → List Char → Bool → List Char × Bool × Cursor
  | 0, c, _, broken => ([], broken, c)
  | fuel + 1, c, pending, broken =>
    let n := if c.peek == some '#' then 0 else wordLength flow c.rest
    if n == 0 then ([], broken, c)
    else
      let word := pending ++ c.rest.take n
      let (blanks, broken, c) := gap (c.skip n)
      if blanks.isEmpty || c.peek == some '#' || (!flow && c.column < indent) then
        (word, broken, c)
      else
        let (more, broken, c) := body flow indent fuel c blanks broken
        (word ++ more, broken, c)

/-- Reads a plain scalar inside a block at column `outer`: its text, whether a line was ended after
it, and the position behind it. -/
def read (flow : Bool) (outer : Int) (c : Cursor) : String × Bool × Cursor :=
  let (text, broken, c) := body flow (outer + 1) (c.rest.length + 1) c [] false
  (String.ofList text, broken, c)

end RiscvAssembler.Yaml.Plain
