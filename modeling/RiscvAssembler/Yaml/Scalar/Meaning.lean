import RiscvAssembler.Text.Base64
import RiscvAssembler.Yaml.Scalar.Form
import RiscvAssembler.Yaml.Scalar.Number
import RiscvAssembler.Yaml.Value

/-!
# What scalars stand for

The value of a text under a tag. A text that has its tag by its form nearly always has a value;
under a written tag it need not.

## Main definitions

* `valueUnder`: the value of a text under a tag.
-/

namespace RiscvAssembler.Yaml.Scalar

open Text

/-- The truth value of a word in any case. -/
def truth (text : String) : Except Problem Bool :=
  let word := lowercase text
  if trueWords.contains word then .ok true
  else if falseWords.contains word then .ok false
  else .error .notTruth

/-- The bytes that a text in base 64 stands for. -/
def binary (text : String) : Except Problem (List UInt8) :=
  if text.toList.all fun c => c.toNat < 0x80 then
    match Base64.decode? text.toList with
    | some data => .ok data
    | none => .error .malformed
  else .error .malformed

/-- The time that a text gives. -/
def timestamp (text : String) : Except Problem Timestamp :=
  match Timestamp.ofChars? (withoutFinalBreak text.toList) with
  | none => .error .notTimestamp
  | some t =>
    match t.fault? with
    | some fault => .error (.timestamp fault)
    | none => .ok t

/-- The value of a text under a tag. Collections and marks have none. -/
def valueUnder (tag : Tag) (text : String) : Except Problem Value :=
  match tag with
  | .null => .ok .null
  | .bool => (truth text).map .bool
  | .int => (integer text).map .int
  | .real => (real text).map .real
  | .binary => (binary text).map .bytes
  | .timestamp => (timestamp text).map .timestamp
  | .str => .ok (.str text)
  | .seq | .omap | .pairs | .map | .set | .merge | .equals | .other => .error .malformed

@[simp] theorem valueUnder_str (text : String) : valueUnder .str text = .ok (.str text) := rfl

@[simp] theorem valueUnder_null (text : String) : valueUnder .null text = .ok .null := rfl

end RiscvAssembler.Yaml.Scalar
