import RiscvAssembler.Text.Blank

/-!
# Tokens of a source line

A comment runs from the first `#` or `//` to the end of the line. The rest is cut at blanks, commas
and parentheses, so that `lw a0, 8(sp)` has the tokens `lw`, `a0`, `8` and `sp`. A first token that
ends in a colon defines a label.

## Main definitions

* `stripComment`, `tokenize`: the text before the comment, and its tokens.
* `isLabel`, `labelName`, `stripLabel`: label definitions.
-/

namespace RiscvAssembler

open Text

/-- The characters before the first comment marker. -/
def beforeComment : List Char → List Char
  | [] => []
  | '#' :: _ => []
  | '/' :: '/' :: _ => []
  | c :: cs => c :: beforeComment cs

/-- The line without its comment. -/
def stripComment (line : String) : String :=
  String.ofList (beforeComment line.toList)

/-- Blanks, commas and parentheses stand between tokens. -/
def isDelimiter (c : Char) : Bool :=
  isBlank c || c == ',' || c == '(' || c == ')'

/-- The maximal runs of characters that are not delimiters. -/
def runs (cs : List Char) : List (List Char) :=
  (cs.splitOnP isDelimiter).filter fun run => !run.isEmpty

/-- The tokens of a line, in order. -/
def tokenize (line : String) : List String :=
  (runs (beforeComment line.toList)).map String.ofList

/-- The token is a name and a colon. -/
def isLabel (token : String) : Bool :=
  1 < token.toList.length && token.toList.getLast? == some ':'

/-- The token without its last character. -/
def labelName (token : String) : String :=
  String.ofList token.toList.dropLast

/-- The label that a line with these tokens defines. -/
def leadingLabel? : List String → Option String
  | [] => none
  | token :: _ => if isLabel token then some (labelName token) else none

/-- The tokens without a leading label. -/
def stripLabel : List String → List String
  | [] => []
  | token :: rest => if isLabel token then rest else token :: rest

end RiscvAssembler
