import RegisterMap.Accessor.Build
import RegisterMap.Accessor.Code
import RegisterMap.Accessor.Device
import RegisterMap.Accessor.Load
import RegisterMap.Accessor.Name
import RegisterMap.Accessor.Page
import RegisterMap.Accessor.Text
import RegisterMap.Analysis.Analyze
import RegisterMap.Analysis.ConstantTable
import RegisterMap.Analysis.External
import RegisterMap.Analysis.Fault
import RegisterMap.Analysis.Field
import RegisterMap.Analysis.Model
import RegisterMap.Analysis.Notice
import RegisterMap.Analysis.ReservedWord
import RegisterMap.Bits.Basic
import RegisterMap.Bits.IntType
import RegisterMap.Capability
import RegisterMap.CommandLine.Arguments
import RegisterMap.CommandLine.Option
import RegisterMap.CommandLine.Run
import RegisterMap.Compile
import RegisterMap.Description.Basic
import RegisterMap.Description.BitSpec
import RegisterMap.Description.Failure
import RegisterMap.Description.Fault
import RegisterMap.Description.JsonForm
import RegisterMap.Description.Lexer
import RegisterMap.Description.Parser
import RegisterMap.Description.Path
import RegisterMap.Description.Policy
import RegisterMap.Description.Token
import RegisterMap.Diagnostic
import RegisterMap.Dump
import RegisterMap.Failure
import RegisterMap.Files.Name
import RegisterMap.Files.Path
import RegisterMap.Files.Tree
import RegisterMap.Handle
import RegisterMap.Json.Reader
import RegisterMap.Json.Value
import RegisterMap.Json.Writer
import RegisterMap.Log
import RegisterMap.Main
import RegisterMap.Memory.Buffer
import RegisterMap.Memory.Bus
import RegisterMap.Memory.Cells
import RegisterMap.Memory.Fault
import RegisterMap.Memory.Paged
import RegisterMap.Memory.Space
import RegisterMap.Number.Double
import RegisterMap.Number.Format
import RegisterMap.Number.Literal
import RegisterMap.Options
import RegisterMap.Outcome
import RegisterMap.Proofs.Words
import RegisterMap.Settings
import RegisterMap.Shell.Command
import RegisterMap.Shell.Session
import RegisterMap.Shell.Words
import RegisterMap.Step
import RegisterMap.Text.Blank
import RegisterMap.Text.Canonical
import RegisterMap.Text.Case
import RegisterMap.Text.CaseTable
import RegisterMap.Text.Digit
import RegisterMap.Text.FoldTable
import RegisterMap.Text.Identifier
import RegisterMap.Text.Letter
import RegisterMap.Text.Lines
import RegisterMap.Text.MarkTable
import RegisterMap.Text.PairTable
import RegisterMap.Text.Point
import RegisterMap.Text.Printable
import RegisterMap.Text.Quoted
import RegisterMap.Text.Ranges
import RegisterMap.Text.Utf8
import RegisterMap.Proofs.Analysis.Placement
import RegisterMap.Proofs.Analysis.Registers
import RegisterMap.Proofs.Analysis.WellFormed
import RegisterMap.Proofs.Accessor.Members
import RegisterMap.Proofs.Accessor.Made
import RegisterMap.Proofs.Accessor.Construction
import RegisterMap.Proofs.Accessor.Programs
import RegisterMap.Proofs.Accessor.Faithful
import RegisterMap.Proofs.Accessor.Exact
import RegisterMap.Proofs.Accessor.Loadable
import RegisterMap.Proofs.Memory.Buffers
import RegisterMap.Proofs.Accessor.History
import RegisterMap.Proofs.Accessor.Recall
import RegisterMap.Proofs.Accessor.Steady
import RegisterMap.Proofs.Accessor.Frame
import RegisterMap.Proofs.Accessor.Docstring
import RegisterMap.Proofs.Text.Strip
import RegisterMap.Proofs.Number.Decimal
import RegisterMap.Proofs.Description.Grammar
import RegisterMap.Proofs.Description.Phrases
import RegisterMap.Proofs.Description.Modules
import RegisterMap.Proofs.Description.Reading
import RegisterMap.Proofs.Description.Shown
import RegisterMap.Proofs.Description.Lexed
import RegisterMap.Proofs.Description.Written
import RegisterMap.Proofs.Description.PathText
import RegisterMap.Proofs.Description.Spelling
import RegisterMap.Proofs.Description.RangeText
import RegisterMap.Proofs.Description.Layout
import RegisterMap.Proofs.Description.Rendering
import RegisterMap.Proofs.Description.TextRoundTrip
import RegisterMap.Proofs.Description.JsonRoundTrip
import RegisterMap.Proofs.Accessor.Failing
import RegisterMap.Proofs.Accessor.Refusal
import RegisterMap.Proofs.Accessor.Safe
import RegisterMap.Proofs.Text.Endings
import RegisterMap.Proofs.Accessor.Clashes
import RegisterMap.Proofs.Number.Prefixed
import RegisterMap.Proofs.Accessor.Emission
import RegisterMap.Proofs.Accessor.Constants
import RegisterMap.Proofs.Accessor.Checks
import RegisterMap.Proofs.Analysis.Constants
import RegisterMap.Proofs.Analysis.Precedence
import RegisterMap.Proofs.Analysis.Filling
import RegisterMap.Proofs.Analysis.Warnings
import RegisterMap.Proofs.Memory.Spaces
import RegisterMap.Proofs.Memory.Regions
import RegisterMap.Proofs.Memory.Bytes
import RegisterMap.Proofs.Memory.Routing
import RegisterMap.Proofs.Memory.Flat
import RegisterMap.Proofs.Memory.Ledger
import RegisterMap.Proofs.Matching
import RegisterMap.Proofs.Accessor.Matching
import RegisterMap.Proofs.Memory.Windows
import RegisterMap.Proofs.Memory.Backends
import RegisterMap.Proofs.Endings
import RegisterMap.Proofs.Text.Position
import RegisterMap.Proofs.Description.Positions
import RegisterMap.Proofs.Description.Pieces
import RegisterMap.Proofs.Description.Quotes
import RegisterMap.Proofs.Description.FaultPositions
import RegisterMap.Proofs.Analysis.Refusals
import RegisterMap.Proofs.Description.LongNumbers
import RegisterMap.Proofs.Json.Integers
import RegisterMap.Proofs.Description.JsonRefusals
import RegisterMap.Proofs.Compiling
import RegisterMap.Proofs.Text.Renaming
import RegisterMap.Proofs.Accessor.Renaming
import RegisterMap.Proofs.Accessor.Exchange
import RegisterMap.Proofs.Accessor.ClassName
import RegisterMap.Proofs.Bits.Primitives
import RegisterMap.Proofs.Bits.Ranges
import RegisterMap.Proofs.Bits.Unchecked
import RegisterMap.Proofs.Bits.Residues
import RegisterMap.Proofs.Memory.Mapped
import RegisterMap.Proofs.Shell.Finding
import RegisterMap.Proofs.Shell.Commands
import RegisterMap.Proofs.Shell.Session
import RegisterMap.Proofs.Files.Writing
import RegisterMap.Proofs.CommandLine.Generating
import RegisterMap.Proofs.Description.Numerals
import RegisterMap.Proofs.Description.Tokenized
import RegisterMap.Proofs.Description.Lines
import RegisterMap.Proofs.Description.Separated
import RegisterMap.Proofs.Description.WholeNumbers
import RegisterMap.Proofs.Description.Rereading
import RegisterMap.Proofs.Description.PathReading
import RegisterMap.Proofs.Memory.Variables
import RegisterMap.Proofs.Accessor.Calls
import RegisterMap.Proofs.Accessor.LineCalls
import RegisterMap.Proofs.Accessor.Imports
import RegisterMap.Proofs.Shell.Showing
import RegisterMap.Proofs.CommandLine.Opening
import RegisterMap.Proofs.Scopes
import RegisterMap.Proofs.Dumps
import RegisterMap.Proofs.Accessor.Looking
import RegisterMap.Proofs.Accessor.Building
