import RiscvAssembler.Yaml.Scalar.Block
import RiscvAssembler.Yaml.Scalar.Plain
import RiscvAssembler.Yaml.Scalar.Quoted

/-!
# Reading YAML text into tokens

Indentation becomes visible as tokens around block collections, and the key of a mapping entry gets
a mark of its own. Whether a scalar or a flow collection is a key shows only at the colon behind it,
so each open collection remembers the last place where a key may have started.

## Main definitions

* `Lexer`: the position, the tokens so far, the open blocks and the places where keys may start.
* `TokenStream.ofText`: the tokens of a text, up to a problem if there is one.

## Implementation notes

Every round of the main loop moves over at least one character, so the number of characters bounds
the number of rounds. A problem counts only once reading comes to it: what is wrong with the tokens
before it is found first.
-/

namespace RiscvAssembler.Yaml

/-- A place where the key of a mapping entry may have started. -/
structure KeyStart where
  /-- The number of tokens before it. -/
  position : Nat
  /-- Nothing but a key can start here. -/
  required : Bool
  index : Nat
  line : Nat
  column : Nat

/-- A remembered place is given up once its line has ended or it lies too far back. -/
def KeyStart.isStale (key : KeyStart) (cursor : Cursor) : Bool :=
  key.line != cursor.line || 1024 < cursor.index - key.index

/-- The state of reading: innermost blocks and collections come first. -/
structure Lexer where
  cursor : Cursor
  tokens : Array Token := #[]
  /-- The columns of the open block collections. -/
  indents : List Nat := []
  /-- For the surrounding block, and for each open flow collection, where a key may have started. -/
  keys : List (Option KeyStart) := [none]
  /-- A key may start at the position. -/
  allowKey : Bool := true

namespace Lexer

/-- The position lies inside a flow collection. -/
def inFlow (s : Lexer) : Bool :=
  1 < s.keys.length

/-- The column of the innermost block collection. -/
def indent (s : Lexer) : Int :=
  match s.indents with
  | [] => -1
  | column :: _ => column

/-- Adds a token. -/
def push (token : Token) (s : Lexer) : Lexer :=
  { s with tokens := s.tokens.push token }

/-- Moves over `n` characters. -/
def forward (n : Nat) (s : Lexer) : Lexer :=
  { s with cursor := s.cursor.skip n }

/-! ### Places where keys may start -/

/-- Gives up the places that no colon can follow any more. -/
def dropStaleKeys (s : Lexer) : Except Problem Lexer := do
  let keys ← s.keys.mapM fun key? =>
    match key? with
    | none => .ok none
    | some key =>
      if key.isStale s.cursor then
        if key.required then .error .malformed else .ok none
      else .ok (some key)
  pure { s with keys }

/-- Forgets where the innermost key may have started. -/
def dropKey (s : Lexer) : Except Problem Lexer :=
  match s.keys with
  | some key :: rest =>
    if key.required then .error .malformed else .ok { s with keys := none :: rest }
  | _ => .ok s

/-- Remembers the position as the start of a key, if one may start here. -/
def saveKey (s : Lexer) : Except Problem Lexer :=
  if s.allowKey then do
    let s ← s.dropKey
    let key : KeyStart :=
      { position := s.tokens.size
        required := !s.inFlow && s.indent == s.cursor.column
        index := s.cursor.index
        line := s.cursor.line
        column := s.cursor.column }
    pure { s with keys := some key :: s.keys.drop 1 }
  else pure s

/-! ### Block collections -/

/-- Closes the block collections at columns beyond `column`. -/
def closeBlocks (column : Int) (s : Lexer) : Lexer :=
  if s.inFlow then s
  else
    let closed := s.indents.takeWhile fun i : Nat => column < i
    { s with
      indents := s.indents.drop closed.length
      tokens := s.tokens ++ Array.replicate closed.length Token.blockEnd }

/-- Opens a block collection at `column` if it lies deeper than the innermost one. -/
def openBlock? (column : Nat) (s : Lexer) : Option Lexer :=
  if s.indent < column then some { s with indents := column :: s.indents } else none

/-- Opens a block collection at the position, unless there is one, and marks it by `token`. -/
def openBlock (token : Token) (s : Lexer) : Lexer :=
  match s.openBlock? s.cursor.column with
  | some s => s.push token
  | none => s

/-- Moves over spaces, comments and line breaks. A key may start on a new line of a block. -/
def skipBlanks : Nat → Lexer → Lexer
  | 0, s => s
  | fuel + 1, s =>
    let c := s.cursor.skipWhile (· == ' ')
    let c := if c.peek == some '#' then c.skipWhile fun ch => !isBreak ch else c
    match c.lineBreak? with
    | some (_, c) => skipBlanks fuel { s with cursor := c, allowKey := s.allowKey || !s.inFlow }
    | none => { s with cursor := c }

/-! ### Directives, addresses and tag handles -/

/-- A decimal number. -/
def number (c : Cursor) : Except Problem (Nat × Cursor) :=
  let (digits, c) := c.span Char.isDigit
  match Text.digitsValue? 10 digits with
  | some n => .ok (n, c)
  | none => .error .malformed

/-- The bytes of a run of escapes of a percent sign and two digits each. -/
def escapedBytes : Nat → Cursor → Except Problem (List UInt8 × Cursor)
  | 0, c => .ok ([], c)
  | fuel + 1, c =>
    if c.peek == some '%' then
      match Quoted.hexCode? 2 c.next.rest with
      | none => .error .malformed
      | some code => do
        let (more, c) ← escapedBytes fuel (c.skip 3)
        pure (code.toUInt8 :: more, c)
    else .ok ([], c)

/-- The characters of tags and of the addresses that they stand for. -/
def isAddressCharacter (c : Char) : Bool :=
  c.isAlphanum || "-;/?:@&=+$,_.!~*'()[]".contains c

/-- Reads an address in which a percent sign starts an escaped byte. -/
def addressParts : Nat → Cursor → Except Problem (List Char × Cursor)
  | 0, c => .ok ([], c)
  | fuel + 1, c => do
    let (chunk, c) := c.span isAddressCharacter
    if c.peek == some '%' then
      let (bytes, c) ← escapedBytes (c.rest.length + 1) c
      match String.fromUTF8? ⟨bytes.toArray⟩ with
      | none => .error .malformed
      | some decoded =>
        let (more, c) ← addressParts fuel c
        pure (chunk ++ decoded.toList ++ more, c)
    else pure (chunk, c)

/-- Reads an address of at least one character. -/
def address (c : Cursor) : Except Problem (String × Cursor) := do
  let (text, c') ← addressParts (c.rest.length + 1) c
  if c'.index == c.index then .error .malformed else pure (String.ofList text, c')

/-- Reads a tag handle: an exclamation mark alone, or a name between two of them. -/
def tagHandle (c : Cursor) : Except Problem (String × Cursor) :=
  if c.peek != some '!' then .error .malformed
  else if c.next.peek == some ' ' then .ok ("!", c.next)
  else
    let (name, c) := c.next.span isNameCharacter
    if c.peek == some '!' then .ok (String.ofList ('!' :: name ++ ['!']), c.next)
    else .error .malformed

/-- Reads the rest of a directive after its name. -/
def directiveBody (name : String) (c : Cursor) : Except Problem (Token × Cursor) :=
  if name == "YAML" then do
    let (major, c) ← number (c.skipWhile (· == ' '))
    if c.peek != some '.' then .error .malformed
    else
      let (_, c) ← number c.next
      if endsPart c.peek then pure (.versionDirective major, c) else .error .malformed
  else if name == "TAG" then do
    let (handle, c) ← tagHandle (c.skipWhile (· == ' '))
    if c.peek != some ' ' then .error .malformed
    else
      let (expansion, c) ← address (c.skipWhile (· == ' '))
      if endsPart c.peek then pure (.tagDirective handle expansion, c) else .error .malformed
  else pure (.otherDirective, c.skipWhile fun ch => !isBreak ch)

/-- Reads a directive, which starts a line with a percent sign. -/
def directive (s : Lexer) : Except Problem Lexer := do
  let s ← (s.closeBlocks (-1)).dropKey
  let (name, c) := s.cursor.next.span isNameCharacter
  if name.isEmpty || !endsPart c.peek then .error .malformed
  else
    let (token, c) ← directiveBody (String.ofList name) c
    let c ← Block.restOfLine c
    pure { s with cursor := c, allowKey := false, tokens := s.tokens.push token }

/-! ### Indicators -/

/-- Reads the start or the end of a document. -/
def documentMarker (token : Token) (s : Lexer) : Except Problem Lexer := do
  let s ← (s.closeBlocks (-1)).dropKey
  pure ({ s with allowKey := false }.forward 3 |>.push token)

/-- Reads the start of a flow collection. -/
def flowStart (token : Token) (s : Lexer) : Except Problem Lexer := do
  let s ← s.saveKey
  pure ({ s with keys := none :: s.keys, allowKey := true }.forward 1 |>.push token)

/-- Reads the end of a flow collection. -/
def flowEnd (token : Token) (s : Lexer) : Except Problem Lexer := do
  let s ← s.dropKey
  if s.inFlow then
    pure ({ s with keys := s.keys.drop 1, allowKey := false }.forward 1 |>.push token)
  else .error .malformed

/-- Reads the comma between the entries of a flow collection. -/
def flowEntry (s : Lexer) : Except Problem Lexer := do
  let s ← s.dropKey
  pure ({ s with allowKey := true }.forward 1 |>.push .flowEntry)

/-- Reads the dash of a sequence entry. -/
def blockEntry (s : Lexer) : Except Problem Lexer := do
  let s ←
    if s.inFlow then pure s
    else if s.allowKey then pure (s.openBlock .blockSequenceStart)
    else .error .malformed
  let s ← s.dropKey
  pure ({ s with allowKey := true }.forward 1 |>.push .blockEntry)

/-- Reads the question mark in front of a key. -/
def explicitKey (s : Lexer) : Except Problem Lexer := do
  let s ←
    if s.inFlow then pure s
    else if s.allowKey then pure (s.openBlock .blockMappingStart)
    else .error .malformed
  let s ← s.dropKey
  pure ({ s with allowKey := !s.inFlow }.forward 1 |>.push .key)

/-- Marks the remembered place as the start of a key, and of a block mapping if it lies deeper than
the innermost block. -/
def markKey (key : KeyStart) (s : Lexer) : Lexer :=
  let s := { s with tokens := s.tokens.insertIdxIfInBounds key.position Token.key }
  if s.inFlow then s
  else
    match s.openBlock? key.column with
    | some s =>
      { s with tokens := s.tokens.insertIdxIfInBounds key.position Token.blockMappingStart }
    | none => s

/-- Reads the colon between a key and its value. -/
def mappingValue (s : Lexer) : Except Problem Lexer := do
  let s ←
    match s.keys with
    | some key :: rest =>
      pure { markKey key { s with keys := none :: rest } with allowKey := false }
    | _ => do
      let s ←
        if s.inFlow then pure s
        else if s.allowKey then pure (s.openBlock .blockMappingStart)
        else .error .malformed
      let s ← s.dropKey
      pure { s with allowKey := !s.inFlow }
  pure (s.forward 1 |>.push .value)

/-! ### Names, tags and scalars -/

/-- Reads the name of an anchor or an alias. -/
def name (token : String → Token) (s : Lexer) : Except Problem Lexer := do
  let s ← s.saveKey
  let (text, c) := s.cursor.next.span isNameCharacter
  let ended := endsWord c.peek || c.peek.any fun ch => "?:,]\x7d%@\u0060".contains ch
  if text.isEmpty || !ended then .error .malformed
  else
    pure { s with
      cursor := c, allowKey := false, tokens := s.tokens.push (token (String.ofList text)) }

/-- Reads the handle and the suffix of a tag. -/
def tagParts (c : Cursor) : Except Problem (Option String × String × Cursor) := do
  if c.peekAt 1 == some '<' then
    let (suffix, c) ← address (c.skip 2)
    if c.peek == some '>' then pure (none, suffix, c.next) else .error .malformed
  else if endsWord (c.peekAt 1) then pure (none, "!", c.next)
  else
    let word := c.next.rest.takeWhile fun ch => !(ch == ' ' || isBreak ch)
    if word.contains '!' then
      let (handle, c) ← tagHandle c
      let (suffix, c) ← address c
      pure (some handle, suffix, c)
    else
      let (suffix, c) ← address c.next
      pure (some "!", suffix, c)

/-- Reads a tag. -/
def tag (s : Lexer) : Except Problem Lexer := do
  let s ← s.saveKey
  let (handle, suffix, c) ← tagParts s.cursor
  if endsPart c.peek then
    pure { s with cursor := c, allowKey := false, tokens := s.tokens.push (.tag handle suffix) }
  else .error .malformed

/-- Reads a block scalar. -/
def blockScalar (folded : Bool) (s : Lexer) : Except Problem Lexer := do
  let s ← s.dropKey
  let (text, c) ← Block.read folded s.indent s.cursor
  pure { s with cursor := c, allowKey := true, tokens := s.tokens.push (.scalar text false) }

/-- Reads a quoted scalar. -/
def quotedScalar (double : Bool) (s : Lexer) : Except Problem Lexer := do
  let s ← s.saveKey
  let (text, c) ← Quoted.read double s.cursor
  pure { s with cursor := c, allowKey := false, tokens := s.tokens.push (.scalar text false) }

/-- Reads a plain scalar. -/
def plainScalar (s : Lexer) : Except Problem Lexer := do
  let s ← s.saveKey
  let (text, broken, c) := Plain.read s.inFlow s.indent s.cursor
  pure { s with cursor := c, allowKey := broken, tokens := s.tokens.push (.scalar text true) }

/-! ### The main loop -/

/-- A plain scalar can start with `c` before `following`. -/
def startsPlain (s : Lexer) (c : Char) (following : Option Char) : Bool :=
  !(endsWord (some c) || "-?:,[]\x7b\x7d#&*!|>'\"%@\u0060".contains c) ||
    (!endsWord following && (c == '-' || (!s.inFlow && (c == '?' || c == ':'))))

/-- Reads the token that starts with `c`, the character at the position. -/
def token (c : Char) (s : Lexer) : Except Problem Lexer :=
  let following := s.cursor.peekAt 1
  let lineStart := s.cursor.column == 0
  if c == '%' && lineStart then s.directive
  else if lineStart && s.cursor.atMarker '-' then s.documentMarker .documentStart
  else if lineStart && s.cursor.atMarker '.' then s.documentMarker .documentEnd
  else if c == '[' then s.flowStart .flowSequenceStart
  else if c == '\x7b' then s.flowStart .flowMappingStart
  else if c == ']' then s.flowEnd .flowSequenceEnd
  else if c == '\x7d' then s.flowEnd .flowMappingEnd
  else if c == ',' then s.flowEntry
  else if c == '-' && endsWord following then s.blockEntry
  else if c == '?' && (s.inFlow || endsWord following) then s.explicitKey
  else if c == ':' && (s.inFlow || endsWord following) then s.mappingValue
  else if c == '*' then s.name .alias
  else if c == '&' then s.name .anchor
  else if c == '!' then s.tag
  else if c == '|' && !s.inFlow then s.blockScalar false
  else if c == '>' && !s.inFlow then s.blockScalar true
  else if c == '\'' then s.quotedScalar false
  else if c == '"' then s.quotedScalar true
  else if s.startsPlain c following then s.plainScalar
  else .error .malformed

/-- The tokens that can be used although reading on meets a problem. A place where a key may have
started holds back the tokens from there on, as the mark of a key may yet come before them. -/
def upTo (problem : Problem) (s : Lexer) : TokenStream :=
  let pending := s.keys.filterMap fun key? =>
    (key?.filter fun key => !key.isStale s.cursor).map KeyStart.position
  let usable := pending.foldl min s.tokens.size
  { tokens := s.tokens.toList.take usable, problem := some problem }

/-- Reads the tokens that come next. At the end of the text, where all blocks are closed, there are
no more to come. -/
def step (s : Lexer) : Except Problem (Lexer × Bool) := do
  let s ← (s.skipBlanks (s.cursor.rest.length + 1)).dropStaleKeys
  let s := s.closeBlocks s.cursor.column
  match s.cursor.peek with
  | none => return (← (s.closeBlocks (-1)).dropKey, false)
  | some c => return (← s.token c, true)

/-- Reads tokens to the end of the text or up to a problem. -/
def run : Nat → Lexer → TokenStream
  | 0, s => s.upTo .malformed
  | fuel + 1, s =>
    match s.step with
    | .error problem => s.upTo problem
    | .ok (s, true) => run fuel s
    | .ok (s, false) => { tokens := s.tokens.toList }

end Lexer

/-- The characters that a document may hold. -/
def isDocumentCharacter (c : Char) : Bool :=
  let n := c.toNat
  c == '\t' || c == '\n' || c == '\r' || (0x20 ≤ n && n ≤ 0x7E) || n == 0x85 ||
    (0xA0 ≤ n && n ≤ 0xFFFD) || 0x10000 ≤ n

/-- The tokens of a text, after a byte order mark if it starts with one. -/
def TokenStream.ofText (text : String) : TokenStream :=
  let cs := text.toList
  if cs.all isDocumentCharacter then
    let start : Cursor := { rest := cs }
    let start := if start.peek == some '\uFEFF' then start.next else start
    Lexer.run (cs.length + 1) { cursor := start }
  else { tokens := [], problem := some .malformed }

end RiscvAssembler.Yaml
