import RiscvAssembler.Text.Numeral
import RiscvAssembler.Text.Printable
import RiscvAssembler.Text.Surrogate

/-!
# Quoted text

How a text stands in a message: between single quotes, or between double quotes if it holds a single
quote and no double one. A backslash, the quote in use and every unprintable character are escaped,
and a stand-in as the surrogate that it is for. Bytes are shown in the same way after a `b`, with
those beyond ASCII escaped.
-/

namespace RiscvAssembler.Text

/-- The quote that `cs` is written in. -/
def quoteFor (cs : List Char) : Char :=
  if cs.contains '\'' && !cs.contains '"' then '"' else '\''

/-- The digits of a code point in base sixteen, after a marker, zero-filled to `width`. -/
def escapeCode (marker : Char) (width code : Nat) : List Char :=
  '\\' :: marker :: hexChars width code

/-- The digits of a code point after the marker for its size. -/
def escapeUnprintable (code : Nat) : List Char :=
  if code < 0x100 then escapeCode 'x' 2 code
  else if code < 0x10000 then escapeCode 'u' 4 code
  else escapeCode 'U' 8 code

/-- One character inside text quoted by `quote`. -/
def escapeChar (quote c : Char) : List Char :=
  if c = quote ∨ c = '\\' then ['\\', c]
  else if c = '\n' then ['\\', 'n']
  else if c = '\r' then ['\\', 'r']
  else if c = '\t' then ['\\', 't']
  else if isPrintable c then [c]
  else escapeUnprintable ((surrogate? c).getD c.toNat)

/-- The text in quotes. -/
def quoted (s : String) : String :=
  let quote := quoteFor s.toList
  String.ofList (quote :: s.toList.flatMap (escapeChar quote) ++ [quote])

/-- One byte inside bytes quoted by `quote`. -/
def escapeByte (quote : Char) (byte : UInt8) : List Char :=
  if byte < 0x7F then escapeChar quote (Char.ofNat byte.toNat)
  else escapeUnprintable byte.toNat

/-- The bytes in quotes. -/
def quotedBytes (bytes : List UInt8) : String :=
  let quote := quoteFor (bytes.map fun b => Char.ofNat b.toNat)
  String.ofList ('b' :: quote :: bytes.flatMap (escapeByte quote) ++ [quote])

end RiscvAssembler.Text
