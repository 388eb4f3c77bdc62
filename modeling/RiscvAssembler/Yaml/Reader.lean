import RiscvAssembler.Yaml.Lexer
import RiscvAssembler.Yaml.Node
import RiscvAssembler.Yaml.Scalar.Form

/-!
# Reading tokens into nodes

The nodes that the tokens of a text describe. A node gets its number when its first token has been
read, so that an alias inside it can refer to it.

## Main definitions

* `Reader`: the tokens that are left, the nodes so far, and what anchors and tag handles stand for.
* `Document.ofText?`: the only document in a text, if the text has a document.

## Implementation notes

A call that goes on to another one without reading a token is followed by one that reads a token, so
a multiple of the number of tokens bounds the depth of calls.
-/

namespace RiscvAssembler.Yaml

/-- What is left to read of a text, and what has been read. -/
structure Reader where
  stream : TokenStream
  nodes : Nodes := #[]
  /-- The collections that have been read to their ends, the last one first. -/
  collections : List Nat := []
  /-- The number of collections around the position. -/
  depth : Nat := 0
  anchors : List (String × Nat) := []
  handles : List (String × String) := []

/-- A reading step. -/
abbrev Reading (α : Type) := StateT Reader (Except Problem) α

namespace Reading

/-! ### Steps -/

/-- The text is no document. -/
def malformed {α : Type} : Reading α :=
  throw .malformed

/-- The next token, if there is one; or the problem in its place. -/
def peek : Reading (Option Token) := do
  let s := (← get).stream
  match s.tokens, s.problem with
  | [], some problem => throw problem
  | tokens, _ => return tokens.head?

/-- Moves over the next token. -/
def advance : Reading Unit :=
  modify fun r => { r with stream.tokens := r.stream.tokens.drop 1 }

/-- The next token is one of the given ones, or there is none. -/
def atAny (tokens : List Token) : Reading Bool := do
  match ← peek with
  | none => return true
  | some t => return tokens.contains t

/-- Moves over the token `t` if it comes next. -/
def accept (t : Token) : Reading Bool := do
  if (← peek) == some t then
    advance
    return true
  else return false

/-- Moves over the comma that must come next. -/
def comma : Reading Unit := do
  unless ← accept .flowEntry do malformed

/-! ### Properties of nodes -/

/-- Reads an anchor. -/
def anchor? : Reading (Option String) := do
  match ← peek with
  | some (.anchor name) =>
    advance
    return some name
  | _ => return none

/-- Reads the handle and the suffix of a tag. -/
def tagParts? : Reading (Option (Option String × String)) := do
  match ← peek with
  | some (.tag handle suffix) =>
    advance
    return some (handle, suffix)
  | _ => return none

/-- The address that a handle and a suffix spell. -/
def address : Option String × String → Reading String
  | (none, suffix) => return suffix
  | (some handle, suffix) => do
    match (← get).handles.lookup handle with
    | some expansion => return expansion ++ suffix
    | none => malformed

/-- What stands in front of a node. -/
structure Properties where
  anchor : Option String := none
  /-- The address of the tag. -/
  tag : Option String := none

/-- Reads the anchor and the tag in front of a node, in either order. -/
def properties : Reading Properties := do
  let anchor ← anchor?
  let parts ← tagParts?
  let anchor ← if anchor.isNone && parts.isSome then anchor? else pure anchor
  return { anchor, tag := ← parts.mapM address }

/-- No tag is written, or a lone exclamation mark. -/
def Properties.isUntagged (p : Properties) : Bool :=
  p.tag.all (· == "!")

/-- The tag of a collection, which is `kind` unless one is written. -/
def Properties.tagOfKind (p : Properties) (kind : Tag) : Tag :=
  match p.tag with
  | some address => if p.isUntagged then kind else Tag.ofAddress address
  | none => kind

/-- The tag of a scalar: that of its form if it is plain or marked by an exclamation mark. -/
def Properties.tagOfText (p : Properties) (plain : Bool) (text : String) : Tag :=
  match p.tag with
  | some address => if p.isUntagged then Scalar.tagOfPlain text else Tag.ofAddress address
  | none => if plain then Scalar.tagOfPlain text else .str

/-! ### New nodes -/

/-- Adds a node. Its anchor must be a new one. -/
def add (anchor : Option String) (node : Node) : Reading Nat := do
  let r ← get
  let id := r.nodes.size
  match anchor with
  | none => set { r with nodes := r.nodes.push node }
  | some name =>
    if (r.anchors.lookup name).isSome then malformed
    set { r with nodes := r.nodes.push node, anchors := (name, id) :: r.anchors }
  return id

/-- A scalar of which nothing is written. -/
def nothing : Reading Nat :=
  add none ⟨.null, .scalar ""⟩

/-- A node of which only an anchor or a tag is written. -/
def propertiesOnly (p : Properties) : Reading Nat :=
  if p.anchor.isNone && p.tag.isNone then malformed
  else add p.anchor ⟨p.tagOfText true "", .scalar ""⟩

/-- The number of collections that may lie in each other. -/
def depthLimit : Nat := 490

/-- Adds a collection, and gives it the content that is read next. -/
def collection (p : Properties) (kind : Tag) (content : Reading Content) : Reading Nat := do
  let id ← add p.anchor ⟨p.tagOfKind kind, .scalar ""⟩
  if depthLimit < (← get).depth then throw .tooDeep
  modify fun r => { r with depth := r.depth + 1 }
  let content ← content
  modify fun r => { r with
    nodes := r.nodes.setContent id content
    collections := id :: r.collections
    depth := r.depth - 1 }
  return id

/-- Adds a sequence. -/
def sequence (p : Properties) (items : Reading (List Nat)) : Reading Nat :=
  collection p .seq (return .seq (← items))

/-- Adds a mapping. -/
def mapping (p : Properties) (entries : Reading (List (Nat × Nat))) : Reading Nat :=
  collection p .map (return .map (← entries))

/-- Where a node stands. In a block mapping the dashes of a sequence need no deeper indentation. -/
inductive Place
  | flow
  | block
  | mappingBlock
  deriving DecidableEq

/-! ### Nodes and the entries of collections -/

mutual

/-- Reads a node. -/
def node : Nat → Place → Reading Nat
  | 0, _ => malformed
  | fuel + 1, place => do
    match ← peek with
    | some (.alias name) =>
      advance
      match (← get).anchors.lookup name with
      | some id => return id
      | none => malformed
    | _ =>
      let p ← properties
      match ← peek with
      | some (.scalar text plain) =>
        advance
        add p.anchor ⟨p.tagOfText plain text, .scalar text⟩
      | some .flowSequenceStart =>
        advance
        sequence p (flowItems fuel true)
      | some .flowMappingStart =>
        advance
        mapping p (flowEntries fuel true)
      | some .blockEntry =>
        if place == .mappingBlock then sequence p (dashItems fuel) else propertiesOnly p
      | some .blockSequenceStart =>
        if place == .flow then propertiesOnly p
        else
          advance
          sequence p (blockItems fuel)
      | some .blockMappingStart =>
        if place == .flow then propertiesOnly p
        else
          advance
          mapping p (blockEntries fuel)
      | _ => propertiesOnly p

/-- Reads a node, or nothing before one of the tokens `ends`. -/
def nodeBefore (ends : List Token) : Nat → Place → Reading Nat
  | 0, _ => malformed
  | fuel + 1, place => do
    if ← atAny ends then nothing else node fuel place

/-- Reads the items of a block sequence and its end. -/
def blockItems : Nat → Reading (List Nat)
  | 0 => malformed
  | fuel + 1 => do
    if ← accept .blockEntry then
      let item ← nodeBefore [.blockEntry, .blockEnd] fuel .block
      return item :: (← blockItems fuel)
    else if ← accept .blockEnd then return []
    else malformed

/-- Reads the items of a sequence whose dashes stand at the column of the mapping around it. -/
def dashItems : Nat → Reading (List Nat)
  | 0 => malformed
  | fuel + 1 => do
    if ← accept .blockEntry then
      let item ← nodeBefore [.blockEntry, .key, .value, .blockEnd] fuel .block
      return item :: (← dashItems fuel)
    else return []

/-- Reads the entries of a block mapping and its end. -/
def blockEntries : Nat → Reading (List (Nat × Nat))
  | 0 => malformed
  | fuel + 1 => do
    if ← accept .key then
      let key ← nodeBefore [.key, .value, .blockEnd] fuel .mappingBlock
      let value ←
        if ← accept .value then nodeBefore [.key, .value, .blockEnd] fuel .mappingBlock
        else nothing
      return (key, value) :: (← blockEntries fuel)
    else if ← accept .blockEnd then return []
    else malformed

/-- Reads the entry of a flow collection that starts with a key, up to a comma or `close`. -/
def flowEntry (close : Token) : Nat → Reading (Nat × Nat)
  | 0 => malformed
  | fuel + 1 => do
    let key ← nodeBefore [.value, .flowEntry, close] fuel .flow
    let value ←
      if ← accept .value then nodeBefore [.flowEntry, close] fuel .flow else nothing
    return (key, value)

/-- Reads the items of a flow sequence and its end. Only the first has no comma before it. -/
def flowItems : Nat → Bool → Reading (List Nat)
  | 0, _ => malformed
  | fuel + 1, first => do
    if ← accept .flowSequenceEnd then return []
    else
      unless first do comma
      if ← accept .key then
        let item ← mapping {} (return [← flowEntry .flowSequenceEnd fuel])
        return item :: (← flowItems fuel false)
      else if ← accept .flowSequenceEnd then return []
      else
        let item ← node fuel .flow
        return item :: (← flowItems fuel false)

/-- Reads the entries of a flow mapping and its end. Only the first has no comma before it. -/
def flowEntries : Nat → Bool → Reading (List (Nat × Nat))
  | 0, _ => malformed
  | fuel + 1, first => do
    if ← accept .flowMappingEnd then return []
    else
      unless first do comma
      if ← accept .key then
        let entry ← flowEntry .flowMappingEnd fuel
        return entry :: (← flowEntries fuel false)
      else if ← accept .flowMappingEnd then return []
      else
        let key ← node fuel .flow
        let entry := (key, ← nothing)
        return entry :: (← flowEntries fuel false)

end

/-! ### Documents -/

/-- The tag handles that every document knows. -/
def defaultHandles : List (String × String) :=
  [("!", "!"), ("!!", Tag.standardSpace)]

/-- Reads the directives before a document: at most one version, which must be 1, and at most one
expansion for each tag handle. The result holds these expansions. -/
def directives : Nat → Bool → List (String × String) → Reading (List (String × String))
  | 0, _, _ => malformed
  | fuel + 1, versioned, handles => do
    match ← peek with
    | some (.versionDirective major) =>
      if versioned || major != 1 then malformed
      advance
      directives fuel true handles
    | some (.tagDirective handle expansion) =>
      if (handles.lookup handle).isSome then malformed
      advance
      directives fuel versioned ((handle, expansion) :: handles)
    | some .otherDirective =>
      advance
      directives fuel versioned handles
    | _ => return handles

/-- Moves over document ends. -/
def documentEnds : Nat → Reading Unit
  | 0 => malformed
  | fuel + 1 => do
    if ← accept .documentEnd then documentEnds fuel else return ()

/-- A directive or the start of a document comes next, or there is nothing more. -/
def atBoundary : Reading Bool := do
  return (← peek).all fun t => t.isDirective || t == .documentStart

/-- Reads what stands before the content of a document, and then the content. -/
def content (fuel : Nat) : Reading Nat := do
  if ← atBoundary then
    let handles ← directives fuel false []
    modify fun r => { r with handles := handles ++ defaultHandles }
    unless ← accept .documentStart do malformed
    if (← atBoundary) || (← atAny [.documentEnd]) then nothing else node fuel .block
  else
    modify fun r => { r with handles := defaultHandles }
    node fuel .block

/-- Reads the only document, and the end of the text. -/
def document (fuel : Nat) : Reading (Option Nat) := do
  if (← peek).isNone then return none
  else
    let root ← content fuel
    documentEnds fuel
    if (← peek).isSome then
      let _ ← directives fuel false []
      malformed
    return some root

end Reading

/-- The only document in a text. -/
def Document.ofText? (text : String) : Except Problem (Option Document) := do
  let stream := TokenStream.ofText text
  let (root?, r) ← (Reading.document (3 * stream.tokens.length + 10)).run { stream }
  return root?.map fun root =>
    { nodes := r.nodes, root, collections := r.collections.reverse }

end RiscvAssembler.Yaml
