import RiscvAssembler.Text.Quoted
import RiscvAssembler.Yaml.Real
import RiscvAssembler.Yaml.Timestamp

/-!
# Values of YAML documents

What a document stands for once aliases, tags and merge keys have been resolved.

## Main definitions

* `Value`: scalars, sequences, and mappings whose entries keep their order.
* `Value.sameKey`: when two keys of a mapping are one, which makes `1`, `1.0` and `true` one key.
* `Value.shown`, `Value.plain`: the text of a scalar in a message, with and without quotes.
-/

namespace RiscvAssembler.Yaml

open Text

/-- The value of a node. -/
inductive Value
  | null
  | bool (b : Bool)
  | int (n : Int)
  | real (x : Real)
  | str (s : String)
  | bytes (data : List UInt8)
  | timestamp (t : Timestamp)
  | seq (items : List Value)
  | map (entries : List (Value × Value))
  deriving Repr, Inhabited

namespace Value

/-- Sequences and mappings cannot be keys. -/
def isCollection : Value → Bool
  | seq _ | map _ => true
  | _ => false

/-- The integer that a truth value or an integer counts as. -/
def asInt? : Value → Option Int
  | bool b => some b.toNat
  | int n => some n
  | _ => none

/-- The integer that a truth value or a number equals. -/
def equalInt? : Value → Option Int
  | real x => x.toInt?
  | v => v.asInt?

/-- Two keys count as one. Numbers and truth values are compared by what they amount to. -/
def sameKey : Value → Value → Bool
  | null, null => true
  | str s, str t => s == t
  | bytes s, bytes t => s == t
  | timestamp s, timestamp t => s == t
  | v, w =>
    match v.equalInt?, w.equalInt? with
    | some m, some n => m == n
    | none, none =>
      match v, w with
      | real x, real y => x == y
      | _, _ => false
    | _, _ => false

/-- The entry under the text `key`. -/
def get? (key : String) (entries : List (Value × Value)) : Option Value :=
  (entries.find? fun entry => sameKey entry.1 (str key)).map (·.2)

/-- Puts an entry into a mapping: a key that is there keeps its place and its form. -/
def put (key value : Value) : List (Value × Value) → List (Value × Value)
  | [] => [(key, value)]
  | (k, v) :: rest => if sameKey k key then (k, value) :: rest else (k, v) :: put key value rest

/-- A scalar as a message shows it, text in quotes. -/
def shown : Value → String
  | null => "None"
  | bool true => "True"
  | bool false => "False"
  | int n => decimal n
  | real x => x.text
  | str s => quoted s
  | bytes data => quotedBytes data
  | timestamp t => t.shown
  | seq _ => "[...]"
  | map _ => "\x7b...\x7d"

/-- A scalar as a message shows it inside quotes of its own. -/
def plain : Value → String
  | str s => s
  | timestamp t => t.plain
  | v => v.shown

end Value

end RiscvAssembler.Yaml
