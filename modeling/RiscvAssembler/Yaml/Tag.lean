/-!
# Tags of nodes

A tag says what kind of value a node stands for. It is written in front of a node as an address, or
follows from the form of the node.

## Main definitions

* `Tag`: the tags of the standard schema, and all others as one.
* `Tag.ofAddress`: the tag that an address names.
-/

namespace RiscvAssembler.Yaml

/-- What kind of value a node stands for. -/
inductive Tag
  | null
  | bool
  | int
  | real
  | binary
  | timestamp
  | str
  | seq
  | omap
  | pairs
  | map
  | set
  /-- As a key, it takes in the entries of other mappings. -/
  | merge
  /-- As a key, it marks the value that a mapping has as a scalar. -/
  | equals
  /-- A tag that no value has. -/
  | other
  deriving DecidableEq, Repr, Inhabited

namespace Tag

/-- The start of the address of every tag of the standard schema. -/
def standardSpace : String := "tag:yaml.org,2002:"

/-- The names of tags in the standard schema. -/
def names : List (String × Tag) :=
  [("null", null), ("bool", bool), ("int", int), ("float", real), ("binary", binary),
   ("timestamp", timestamp), ("str", str), ("seq", seq), ("omap", omap), ("pairs", pairs),
   ("map", map), ("set", set), ("merge", merge), ("value", equals)]

/-- The tag that an address names. -/
def ofAddress (address : String) : Tag :=
  ((names.map fun p => (standardSpace ++ p.1, p.2)).lookup address).getD other

/-- The node stands for a collection. -/
def isCollection : Tag → Bool
  | seq | omap | pairs | map | set => true
  | _ => false

end Tag

end RiscvAssembler.Yaml
