import RiscvAssembler.Yaml.Reader
import RiscvAssembler.Yaml.Scalar.Meaning

/-!
# Values of documents

What a document stands for. Its nodes are met from the outside in: a scalar gets its value when it
is met, and a collection is opened after all collections that were met before it, so that of several
problems the outermost one counts. The values are then put together from the inside out.

A later entry of a mapping replaces an earlier one under the same key in place, and the entries that
a merge key takes in come before the entries of the mapping itself.

## Main definitions

* `Meeting`: the nodes, the values of scalars, and the collections still to be opened.
* `Document.meet`: the state after all nodes have been met.
* `Document.value`: the value of a document.
* `Value.ofText`: the value of a text; a text without a document has the value `null`.

## Implementation notes

A collection may lie in itself. Its value is then unfolded to a depth of `unfoldings`, beyond which
it is empty; no table looks that deep into a value.
-/

namespace RiscvAssembler.Yaml

/-- What has been met of a document. -/
structure Meeting where
  nodes : Nodes
  /-- The values of the scalars met so far. -/
  values : Array Value
  met : Array Bool
  /-- The collections met but not opened, the last one first. -/
  waiting : List Nat := []

namespace Meeting

/-- The nodes before any of them has been met. -/
def start (nodes : Nodes) : Meeting where
  nodes := nodes
  values := nodes.map fun node =>
    match node.tag with
    | .map => .map []
    | _ => .seq []
  met := Array.replicate nodes.size false

/-- The value of a node that stands for a scalar. -/
def scalarValue (nodes : Nodes) (id : Nat) : Except Problem Value := do
  let tag := nodes.tagOf id
  let text ← nodes.text id
  if tag == .timestamp && (nodes.entries? id).isSome then .error .timestampInMapping
  else Scalar.valueUnder tag text

/-- Meets a node. -/
def meet (m : Meeting) (id : Nat) : Except Problem Meeting :=
  if m.met.getD id true then .ok m
  else
    let m := { m with met := m.met.setIfInBounds id true }
    match m.nodes.tagOf id with
    | .merge | .equals | .other => .error .malformed
    | tag =>
      if tag.isCollection then .ok { m with waiting := id :: m.waiting }
      else (scalarValue m.nodes id).map fun v =>
        { m with values := m.values.setIfInBounds id v }

/-- Meets the key and the value of an entry. A collection cannot be a key. -/
def meetEntry (m : Meeting) (e : Nat × Nat) : Except Problem Meeting := do
  let m ← m.meet e.1
  if (m.nodes.tagOf e.1).isCollection then .error .malformed else m.meet e.2

/-- Meets the key and the value of a mapping with one entry. -/
def meetPair (m : Meeting) (id : Nat) : Except Problem Meeting :=
  match m.nodes.entries? id with
  | some [(key, value)] => do (← m.meet key).meet value
  | _ => .error .malformed

/-- Opens a collection: meets its parts. -/
def expand (m : Meeting) (id : Nat) : Except Problem Meeting := do
  match m.nodes.tagOf id with
  | .map | .set =>
    if (m.nodes.entries? id).isNone then .error .malformed
    else
      let m := { m with nodes := ← m.nodes.flatten id }
      ((m.nodes.entries? id).getD []).foldlM meetEntry m
  | tag =>
    match m.nodes.items? id with
    | none => .error .malformed
    | some items => items.foldlM (if tag == .seq then meet else meetPair) m

/-- Opens the collections that wait, and then those that were met while they were opened. Each is
opened once, so the number of nodes bounds the number of rounds. -/
def expandAll : Nat → Meeting → Except Problem Meeting
  | 0, m => .ok m
  | fuel + 1, m =>
    if m.waiting.isEmpty then .ok m
    else do expandAll fuel (← m.waiting.reverse.foldlM expand { m with waiting := [] })

end Meeting

/-! ### Putting values together -/

/-- The value of a collection whose parts have the values `values`. -/
def Nodes.assemble (nodes : Nodes) (values : Array Value) (id : Nat) : Value :=
  let valueOf (part : Nat) : Value := values.getD part .null
  match nodes[id]? with
  | some ⟨tag, .map entries⟩ =>
    let entries := entries.foldl (fun m e => Value.put (valueOf e.1) (valueOf e.2) m) []
    if tag == .set then .seq (entries.map (·.1)) else .map entries
  | some ⟨.seq, .seq items⟩ => .seq (items.map valueOf)
  | some ⟨_, .seq items⟩ =>
    .seq (items.map fun item =>
      .seq (((nodes.entries? item).getD []).flatMap fun e => [valueOf e.1, valueOf e.2]))
  | _ => .null

/-- How often a collection that lies in itself is unfolded. -/
def unfoldings : Nat := 6

/-- The values after those of the collections have been put together once more. -/
def Nodes.assembleAll (nodes : Nodes) (collections : List Nat) (values : Array Value) :
    Array Value :=
  collections.foldl (fun values id =>
    if (nodes.tagOf id).isCollection then values.setIfInBounds id (nodes.assemble values id)
    else values) values

/-- The nodes of a document and the values of its scalars. -/
def Document.meet (d : Document) : Except Problem Meeting := do
  Meeting.expandAll (d.nodes.size + 1) (← (Meeting.start d.nodes).meet d.root)

/-- The value of a document. -/
def Document.value (d : Document) : Except Problem Value := do
  let m ← d.meet
  let values := (List.range unfoldings).foldl
    (fun values _ => m.nodes.assembleAll d.collections values) m.values
  return values.getD d.root .null

/-- The value of the only document in a text. -/
def Value.ofText (text : String) : Except Problem Value := do
  match ← Document.ofText? text with
  | none => return .null
  | some d => d.value

end RiscvAssembler.Yaml
