import RiscvAssembler.Yaml.Problem
import RiscvAssembler.Yaml.Tag

/-!
# Nodes of YAML documents

A document is a graph: each node has a number, and collections hold the numbers of their parts. An
alias is the number of a node that stands elsewhere, so a node can lie in several others and even in
itself.

## Main definitions

* `Node`: a tag, and a text or the numbers of the parts.
* `Document`: the nodes by number, and the number of the outermost one.
* `Nodes.text`: the text of a node that stands for a scalar.
* `Nodes.flatten`: a mapping with the entries that its merge keys take in.
-/

namespace RiscvAssembler.Yaml

/-- What a node consists of. -/
inductive Content
  | scalar (text : String)
  | seq (items : List Nat)
  | map (entries : List (Nat × Nat))
  deriving DecidableEq, Repr, Inhabited

/-- A node. -/
structure Node where
  tag : Tag
  content : Content
  deriving DecidableEq, Repr, Inhabited

/-- Nodes by number. -/
abbrev Nodes := Array Node

/-- What a text describes. -/
structure Document where
  nodes : Nodes
  root : Nat
  /-- The collections in the order of their ends. -/
  collections : List Nat

namespace Nodes

/-- The tag of a node. -/
def tagOf (nodes : Nodes) (id : Nat) : Tag :=
  (nodes[id]?.map Node.tag).getD .other

/-- The entries of a node, if it is a mapping. -/
def entries? (nodes : Nodes) (id : Nat) : Option (List (Nat × Nat)) :=
  match nodes[id]?.map Node.content with
  | some (.map entries) => some entries
  | _ => none

/-- The items of a node, if it is a sequence. -/
def items? (nodes : Nodes) (id : Nat) : Option (List Nat) :=
  match nodes[id]?.map Node.content with
  | some (.seq items) => some items
  | _ => none

/-- Replaces the content of a node. -/
def setContent (nodes : Nodes) (id : Nat) (content : Content) : Nodes :=
  nodes.modify id fun node => { node with content }

/-- Replaces the tag of a node. -/
def setTag (nodes : Nodes) (id : Nat) (tag : Tag) : Nodes :=
  nodes.modify id fun node => { node with tag }

@[simp] theorem size_setContent (nodes : Nodes) (id : Nat) (content : Content) :
    (nodes.setContent id content).size = nodes.size := by
  simp [setContent]

@[simp] theorem size_setTag (nodes : Nodes) (id : Nat) (tag : Tag) :
    (nodes.setTag id tag).size = nodes.size := by
  simp [setTag]

/-- The text of a node that stands for a scalar: of a mapping it is that of the first value under an
equals sign. -/
def textFrom : Nat → Nodes → Nat → Except Problem String
  | 0, _, _ => .error .tooDeep
  | fuel + 1, nodes, id =>
    match nodes[id]?.map Node.content with
    | some (.scalar text) => .ok text
    | some (.map entries) =>
      match entries.find? fun e => nodes.tagOf e.1 == .equals with
      | some e => textFrom fuel nodes e.2
      | none => .error .malformed
    | _ => .error .malformed

/-- The text of a node that stands for a scalar. -/
def text (nodes : Nodes) (id : Nat) : Except Problem String :=
  textFrom (nodes.size + 1) nodes id

/-! ### Merge keys -/

/-- The number of merge keys in all mappings. -/
def mergeCount (nodes : Nodes) : Nat :=
  nodes.foldl (fun count node =>
    match node.content with
    | .map entries => count + entries.countP fun e => nodes.tagOf e.1 == .merge
    | _ => count) 0

/-- Makes the equals signs among the keys of a mapping plain texts. -/
def nameEquals (nodes : Nodes) (entries : List (Nat × Nat)) : Nodes :=
  entries.foldl (fun nodes e =>
    if nodes.tagOf e.1 == .equals then nodes.setTag e.1 .str else nodes) nodes

/-- Takes in, after the entries `taken`, those that the merge keys of a mapping name, and puts all
of them in front of its own. Every step takes a merge key away, which bounds their number. -/
def flattenFrom : Nat → Nodes → Nat → List (Nat × Nat) → Except Problem Nodes
  | 0, _, _, _ => .error .malformed
  | fuel + 1, nodes, id, taken => do
    let entries := (nodes.entries? id).getD []
    match entries.findIdx? fun e => nodes.tagOf e.1 == .merge with
    | none => pure ((nodes.nameEquals entries).setContent id (.map (taken ++ entries)))
    | some i =>
      let source := (entries[i]?.map (·.2)).getD id
      let nodes := nodes.setContent id (.map (entries.eraseIdx i))
      match nodes.entries? source, nodes.items? source with
      | some _, _ =>
        let nodes ← flattenFrom fuel nodes source []
        flattenFrom fuel nodes id (taken ++ (nodes.entries? source).getD [])
      | none, some items =>
        let (nodes, sources) ← items.foldlM
          (fun (nodes, sources) item =>
            match nodes.entries? item with
            | none => throw .malformed
            | some _ => do
              let nodes ← flattenFrom fuel nodes item []
              pure (nodes, (nodes.entries? item).getD [] :: sources))
          (nodes, [])
        flattenFrom fuel nodes id (taken ++ sources.flatten)
      | none, none => throw .malformed

/-- The nodes after a mapping has taken in what its merge keys name: a mapping, or the mappings of a
sequence, the first of which count most. -/
def flatten (nodes : Nodes) (id : Nat) : Except Problem Nodes :=
  flattenFrom (nodes.mergeCount + 1) nodes id []

end Nodes

end RiscvAssembler.Yaml
