import RiscvAssembler.CommandLine.Arguments
import RiscvAssembler.CommandLine.Run
import RiscvAssembler.Dictionary
import RiscvAssembler.Fault
import RiscvAssembler.Field
import RiscvAssembler.FileTree
import RiscvAssembler.Instruction
import RiscvAssembler.Literal
import RiscvAssembler.Main
import RiscvAssembler.Operand.Immediate
import RiscvAssembler.Operand.Layout
import RiscvAssembler.Program.Emission
import RiscvAssembler.Program.Instruction
import RiscvAssembler.Program.Line
import RiscvAssembler.Program.Session
import RiscvAssembler.Program.Symbols
import RiscvAssembler.Program.Trace
import RiscvAssembler.Proofs.Answer
import RiscvAssembler.Proofs.CommandLine
import RiscvAssembler.Proofs.Dictionary
import RiscvAssembler.Proofs.FileTree
import RiscvAssembler.Proofs.Literal
import RiscvAssembler.Proofs.Literal.Grammar
import RiscvAssembler.Proofs.Program.Blame
import RiscvAssembler.Proofs.Program.Concatenation
import RiscvAssembler.Proofs.Program.Constant
import RiscvAssembler.Proofs.Program.Desugaring
import RiscvAssembler.Proofs.Program.Disassembly
import RiscvAssembler.Proofs.Program.Expansion
import RiscvAssembler.Proofs.Program.Failure
import RiscvAssembler.Proofs.Program.FirstFault
import RiscvAssembler.Proofs.Program.Formatting
import RiscvAssembler.Proofs.Program.HexImage
import RiscvAssembler.Proofs.Program.History
import RiscvAssembler.Proofs.Program.Instruction
import RiscvAssembler.Proofs.Program.Labels
import RiscvAssembler.Proofs.Program.Layout
import RiscvAssembler.Proofs.Program.OperandTable
import RiscvAssembler.Proofs.Program.Operands
import RiscvAssembler.Proofs.Program.OwnTable
import RiscvAssembler.Proofs.Program.Passes
import RiscvAssembler.Proofs.Program.Reassembly
import RiscvAssembler.Proofs.Program.Reference
import RiscvAssembler.Proofs.Program.Respelling
import RiscvAssembler.Proofs.Program.Unlabelled
import RiscvAssembler.Proofs.Program.Verbosity
import RiscvAssembler.Proofs.Pseudo
import RiscvAssembler.Proofs.Register
import RiscvAssembler.Proofs.Report
import RiscvAssembler.Proofs.Table.Accepted
import RiscvAssembler.Proofs.Table.Documented
import RiscvAssembler.Proofs.Table.Reading
import RiscvAssembler.Proofs.Table.Reported
import RiscvAssembler.Proofs.Text.Hexadecimal
import RiscvAssembler.Proofs.Text.Lowercase
import RiscvAssembler.Proofs.Token
import RiscvAssembler.Proofs.Token.MaximalRuns
import RiscvAssembler.Proofs.Token.Replacement
import RiscvAssembler.Proofs.Token.Spacing
import RiscvAssembler.Proofs.Word.BitField
import RiscvAssembler.Proofs.Word.Disassembly
import RiscvAssembler.Proofs.Word.Encoding
import RiscvAssembler.Proofs.Word.FirstMatch
import RiscvAssembler.Proofs.Word.Packing
import RiscvAssembler.Proofs.Word.Range
import RiscvAssembler.Proofs.Word.Recognition
import RiscvAssembler.Proofs.Word.RoundTrip
import RiscvAssembler.Proofs.Yaml.Keys
import RiscvAssembler.Pseudo
import RiscvAssembler.Register
import RiscvAssembler.Table.Basic
import RiscvAssembler.Table.Load
import RiscvAssembler.Table.Rv32i
import RiscvAssembler.Text.Base64
import RiscvAssembler.Text.Blank
import RiscvAssembler.Text.CodePoint
import RiscvAssembler.Text.Lines
import RiscvAssembler.Text.Lowercase
import RiscvAssembler.Text.Numeral
import RiscvAssembler.Text.Printable
import RiscvAssembler.Text.Quoted
import RiscvAssembler.Text.Surrogate
import RiscvAssembler.Text.WordCharacter
import RiscvAssembler.Token
import RiscvAssembler.Word.Decode
import RiscvAssembler.Word.Disassembly
import RiscvAssembler.Word.Encode
import RiscvAssembler.Word.Fields
import RiscvAssembler.Yaml.Document
import RiscvAssembler.Yaml.Lexer
import RiscvAssembler.Yaml.Node
import RiscvAssembler.Yaml.Problem
import RiscvAssembler.Yaml.Reader
import RiscvAssembler.Yaml.Real
import RiscvAssembler.Yaml.Scalar.Block
import RiscvAssembler.Yaml.Scalar.Form
import RiscvAssembler.Yaml.Scalar.Meaning
import RiscvAssembler.Yaml.Scalar.Number
import RiscvAssembler.Yaml.Scalar.Plain
import RiscvAssembler.Yaml.Scalar.Quoted
import RiscvAssembler.Yaml.Tag
import RiscvAssembler.Yaml.Timestamp
import RiscvAssembler.Yaml.Token
import RiscvAssembler.Yaml.Value
