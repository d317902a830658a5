import TeachingTree.Building.Expression
import TeachingTree.Building.Program
import TeachingTree.Building.State
import TeachingTree.Building.TypeName
import TeachingTree.CommandLine.Arguments
import TeachingTree.CommandLine.Run
import TeachingTree.CommandLine.Workspace
import TeachingTree.Constant
import TeachingTree.Constant.Key
import TeachingTree.Cursor.Basic
import TeachingTree.Cursor.Kind
import TeachingTree.Cursor.Macro
import TeachingTree.Cursor.Tokens
import TeachingTree.FileFault
import TeachingTree.FileTree
import TeachingTree.Json.Encoding
import TeachingTree.Json.Error
import TeachingTree.Json.Printer
import TeachingTree.Json.Value
import TeachingTree.Literal.Delimited
import TeachingTree.Literal.Error
import TeachingTree.Literal.Escape
import TeachingTree.Literal.Expression
import TeachingTree.Literal.Lexeme
import TeachingTree.Literal.Number
import TeachingTree.Literal.Numeral
import TeachingTree.Literal.Operator
import TeachingTree.Literal.Parameter
import TeachingTree.Literal.Quotation
import TeachingTree.Literal.Quoted
import TeachingTree.Literal.Row
import TeachingTree.Literal.Template
import TeachingTree.Literal.Term
import TeachingTree.Log
import TeachingTree.Lowering.Expression
import TeachingTree.Lowering.Program
import TeachingTree.Lowering.State
import TeachingTree.Lowering.TypeName
import TeachingTree.Main
import TeachingTree.Number.Amount
import TeachingTree.Number.Binary64
import TeachingTree.Number.Limit
import TeachingTree.Number.Reading
import TeachingTree.Number.Shortest
import TeachingTree.Path
import TeachingTree.Position
import TeachingTree.Proofs.Building.Actions
import TeachingTree.Proofs.Building.Chain
import TeachingTree.Proofs.Building.Faults
import TeachingTree.Proofs.Building.Grammar
import TeachingTree.Proofs.Building.Literals
import TeachingTree.Proofs.Building.Loop
import TeachingTree.Proofs.Building.Lowering
import TeachingTree.Proofs.Building.Macros
import TeachingTree.Proofs.Building.Outcome
import TeachingTree.Proofs.Building.Steady
import TeachingTree.Proofs.Building.Vectors
import TeachingTree.Proofs.Building.Wrappers
import TeachingTree.Proofs.CommandLine.Run
import TeachingTree.Proofs.CommandLine.Settings
import TeachingTree.Proofs.Cursor.Bounds
import TeachingTree.Proofs.Cursor.Macro
import TeachingTree.Proofs.Json.Number
import TeachingTree.Proofs.Json.Reading
import TeachingTree.Proofs.Json.RoundTrip
import TeachingTree.Proofs.Json.Standard
import TeachingTree.Proofs.Literal.Decoding
import TeachingTree.Proofs.Literal.Escape
import TeachingTree.Proofs.Literal.Integer
import TeachingTree.Proofs.Literal.Reading
import TeachingTree.Proofs.Literal.Spelling
import TeachingTree.Proofs.Lowering.Alike
import TeachingTree.Proofs.Lowering.Blocks
import TeachingTree.Proofs.Lowering.BuiltIn
import TeachingTree.Proofs.Lowering.Calls
import TeachingTree.Proofs.Lowering.Chain
import TeachingTree.Proofs.Lowering.ChainFlag
import TeachingTree.Proofs.Lowering.Conformance
import TeachingTree.Proofs.Lowering.Context
import TeachingTree.Proofs.Lowering.Erasure
import TeachingTree.Proofs.Lowering.Failure
import TeachingTree.Proofs.Lowering.Gaps
import TeachingTree.Proofs.Lowering.Kept
import TeachingTree.Proofs.Lowering.Leaves
import TeachingTree.Proofs.Lowering.Logging
import TeachingTree.Proofs.Lowering.Numbering
import TeachingTree.Proofs.Lowering.Recovery
import TeachingTree.Proofs.Lowering.Renumbering
import TeachingTree.Proofs.Lowering.Results
import TeachingTree.Proofs.Lowering.Scheme
import TeachingTree.Proofs.Lowering.Site
import TeachingTree.Proofs.Lowering.Standard
import TeachingTree.Proofs.Lowering.Step
import TeachingTree.Proofs.Lowering.TypeName
import TeachingTree.Proofs.Lowering.Verbosity
import TeachingTree.Proofs.Rounds
import TeachingTree.Proofs.Schema.All
import TeachingTree.Proofs.Schema.Grammar
import TeachingTree.Proofs.Schema.Nodes
import TeachingTree.Proofs.Schema.Numbers
import TeachingTree.Proofs.Schema.Recovery
import TeachingTree.Proofs.Schema.Serialization
import TeachingTree.Proofs.Schema.Text
import TeachingTree.Proofs.Settings.Entries
import TeachingTree.Proofs.Settings.Flags
import TeachingTree.Proofs.Source.Frame
import TeachingTree.Proofs.Source.Grammar
import TeachingTree.Proofs.Source.Layer
import TeachingTree.Proofs.Source.Name
import TeachingTree.Proofs.Source.Opening
import TeachingTree.Proofs.Source.Signature
import TeachingTree.Proofs.Text.ShellWords
import TeachingTree.Proofs.Text.Words
import TeachingTree.Schema.Document
import TeachingTree.Schema.Node
import TeachingTree.Settings.Basic
import TeachingTree.Settings.Reading
import TeachingTree.Settings.Value
import TeachingTree.Source.Node
import TeachingTree.Source.Signature
import TeachingTree.Source.Type
import TeachingTree.SourceFile
import TeachingTree.Text.Blank
import TeachingTree.Text.CharacterName
import TeachingTree.Text.CodePoint
import TeachingTree.Text.CodePoints
import TeachingTree.Text.Digit
import TeachingTree.Text.Identifier
import TeachingTree.Text.Lines
import TeachingTree.Text.Printable
import TeachingTree.Text.Quoted
import TeachingTree.Text.Search
import TeachingTree.Text.ShellWords
import TeachingTree.Text.Upper
import TeachingTree.Text.Word
