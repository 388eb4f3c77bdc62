import RiscvAssembler.Yaml.Problem

/-!
# Tokens of YAML text

The lexical units of a document, and the way a reading position moves over its characters.

## Main definitions

* `Token`: indicators, scalars, and the marks that indentation puts around block collections.
* `TokenStream`: the tokens of a text up to a problem in it.
* `Cursor`: the characters still to be read and where they stand.
-/

namespace RiscvAssembler.Yaml

/-- The lexical units of a document. -/
inductive Token
  | versionDirective (major : Nat)
  | tagDirective (handle expansion : String)
  | otherDirective
  | documentStart
  | documentEnd
  | blockSequenceStart
  | blockMappingStart
  | blockEnd
  | flowSequenceStart
  | flowSequenceEnd
  | flowMappingStart
  | flowMappingEnd
  | flowEntry
  | blockEntry
  | key
  | value
  | alias (name : String)
  | anchor (name : String)
  | tag (handle : Option String) (suffix : String)
  | scalar (text : String) (plain : Bool)
  deriving DecidableEq, Repr

/-- A directive, which stands before the start of a document. -/
def Token.isDirective : Token → Bool
  | versionDirective _ | tagDirective .. | otherDirective => true
  | _ => false

/-- The tokens of a text, and the problem that reading on after them meets, if there is one. -/
structure TokenStream where
  tokens : List Token
  problem : Option Problem := none

/-- The characters that end a line. -/
def isBreak (c : Char) : Bool :=
  c == '\n' || c == '\r' || c == '\u0085' || c == '\u2028' || c == '\u2029'

/-- The end of the text or of a line. -/
def endsLine : Option Char → Bool
  | none => true
  | some c => isBreak c

/-- The end of the text or of a line, or a space. -/
def endsPart : Option Char → Bool
  | none => true
  | some c => c == ' ' || isBreak c

/-- The end of the text or of a line, a space or a tab. -/
def endsWord : Option Char → Bool
  | none => true
  | some c => c == ' ' || c == '\t' || isBreak c

/-- The characters of anchors, directive names and tag handles. -/
def isNameCharacter (c : Char) : Bool :=
  c.isAlphanum || c == '-' || c == '_'

/-- A position in a text: what is left, and how many characters, lines and columns lie before. -/
structure Cursor where
  rest : List Char
  index : Nat := 0
  line : Nat := 0
  column : Nat := 0

namespace Cursor

/-- The character at the position. -/
def peek (c : Cursor) : Option Char :=
  c.rest.head?

/-- The character `n` places further on. -/
def peekAt (c : Cursor) (n : Nat) : Option Char :=
  c.rest[n]?

/-- Moves over one character. A byte order mark takes no column. -/
def next (c : Cursor) : Cursor :=
  match c.rest with
  | [] => c
  | ch :: rest =>
    if isBreak ch && !(ch == '\r' && rest.head? == some '\n') then
      ⟨rest, c.index + 1, c.line + 1, 0⟩
    else if ch == '\uFEFF' then ⟨rest, c.index + 1, c.line, c.column⟩
    else ⟨rest, c.index + 1, c.line, c.column + 1⟩

/-- Moves over `n` characters. -/
def skip : Nat → Cursor → Cursor
  | 0, c => c
  | n + 1, c => skip n c.next

/-- Moves over the characters `cs`, which come next, as long as they satisfy `p`. -/
def spanFrom (p : Char → Bool) : List Char → Cursor → List Char × Cursor
  | [], c => ([], c)
  | ch :: cs, c =>
    if p ch then
      let (taken, c') := spanFrom p cs c.next
      (ch :: taken, c')
    else ([], c)

/-- The longest run of characters that satisfy `p`, and the position after it. -/
def span (p : Char → Bool) (c : Cursor) : List Char × Cursor :=
  spanFrom p c.rest c

/-- Moves over a run of characters that satisfy `p`. -/
def skipWhile (p : Char → Bool) (c : Cursor) : Cursor :=
  (c.span p).2

/-- Moves over a line break: a pair of carriage return and line feed is one, and all but the two
Unicode separators count as a line feed. -/
def lineBreak? (c : Cursor) : Option (Char × Cursor) :=
  match c.rest with
  | '\r' :: '\n' :: _ => some ('\n', c.next.next)
  | ch :: _ =>
    if ch == '\u2028' || ch == '\u2029' then some (ch, c.next)
    else if isBreak ch then some ('\n', c.next)
    else none
  | [] => none

/-- The text goes on with a document marker: three times `mark`, and then no further word. -/
def atMarker (mark : Char) (c : Cursor) : Bool :=
  match c.rest with
  | a :: b :: d :: rest => a == mark && b == mark && d == mark && endsWord rest.head?
  | _ => false

/-- The text goes on with a document start or a document end. -/
def atDocumentMarker (c : Cursor) : Bool :=
  c.atMarker '-' || c.atMarker '.'

end Cursor

end RiscvAssembler.Yaml
