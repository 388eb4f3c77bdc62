import RiscvAssembler.Text.Quoted
import RiscvAssembler.Yaml.Timestamp

/-!
# Problems of YAML texts

Why a text has no value. Most often it is no document; but a scalar may also claim, by its form or
by a tag, to be a number, a truth value or a time, and not be one.
-/

namespace RiscvAssembler.Yaml

open Text

/-- Why a text has no value. -/
inductive Problem
  /-- The text is no document. -/
  | malformed
  /-- A node lies in too many others, or in itself. -/
  | tooDeep
  /-- An escape in a quoted scalar names a code point beyond the last one. -/
  | noSuchCodePoint
  /-- An escape in a quoted scalar names a code point that does not fit into 31 bits. -/
  | hugeCodePoint
  /-- A number has no characters. -/
  | emptyNumber
  /-- The text of an integer is none in the base that it is written in. -/
  | notInteger (base : Nat) (text : String)
  /-- The text of a floating point number is none. -/
  | notReal (text : String)
  /-- A number in base sixty has more places than a floating point number can weigh. -/
  | tooManyPlaces
  /-- The text of a truth value is none. -/
  | notTruth
  /-- The text of a timestamp is none. -/
  | notTimestamp
  /-- The text of a timestamp stands inside a mapping. -/
  | timestampInMapping
  /-- A field of a timestamp is out of range. -/
  | timestamp (fault : Timestamp.Fault)
  deriving DecidableEq, Repr

/-- The characters of a text that a message about an integer shows: the first two hundred of the
text in quotes. -/
def abridged (text : String) : String :=
  String.ofList ((quoted text).toList.take 200)

/-- The wording of a problem. -/
def Problem.message : Problem → String
  | malformed => "Invalid YAML syntax"
  | tooDeep => "nodes are nested too deeply"
  | noSuchCodePoint => "chr() arg not in range(0x110000)"
  | hugeCodePoint => "code point does not fit into 31 bits"
  | emptyNumber => "number without characters"
  | notInteger base text =>
    "invalid literal for int() with base " ++ decimal base ++ ": " ++ abridged text
  | notReal text => "could not convert string to float: " ++ quoted text
  | tooManyPlaces => "number with too many places"
  | notTruth => "not a truth value"
  | notTimestamp => "not a timestamp"
  | timestampInMapping => "timestamp inside a mapping"
  | timestamp fault => fault.message

end RiscvAssembler.Yaml
