/-!
# Lines

A line feed ends a line and nothing else does. Text read from a file has its carriage returns
replaced first.

## Main definitions

* `lines`: the lines of a text, without an empty one for a final line feed.
* `unlines`: the text that has the given lines.
* `normalizeNewlines`: carriage return and line feed, or carriage return alone, become a line feed.
-/

namespace RiscvAssembler.Text

/-- Splits at line feeds and drops the last piece if it is empty. -/
def linesOf (cs : List Char) : List (List Char) :=
  let pieces := cs.splitOn '\n'
  if pieces.getLast? = some [] then pieces.dropLast else pieces

/-- The lines of a text. -/
def lines (s : String) : List String :=
  (linesOf s.toList).map String.ofList

/-- Joins lines with single line feeds. -/
def unlines (ls : List String) : String :=
  String.intercalate "\n" ls

/-- Ends every given line with a line feed. -/
def endLines (ls : List String) : String :=
  String.join (ls.map (· ++ "\n"))

/-- Replaces each carriage return, with the line feed after it if there is one, by a line feed. -/
def normalizeNewlineChars : List Char → List Char
  | [] => []
  | '\r' :: '\n' :: cs => '\n' :: normalizeNewlineChars cs
  | c :: cs => (if c = '\r' then '\n' else c) :: normalizeNewlineChars cs

/-- The text with every line ended by a line feed alone. -/
def normalizeNewlines (s : String) : String :=
  String.ofList (normalizeNewlineChars s.toList)

end RiscvAssembler.Text
