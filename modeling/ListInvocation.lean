import ListInvocation.Binary64.Basic
import ListInvocation.Binary64.Shortest
import ListInvocation.CommandLine.Command
import ListInvocation.CommandLine.Outcome
import ListInvocation.CommandLine.Program
import ListInvocation.Config.Basic
import ListInvocation.Config.Document
import ListInvocation.Config.Exclusions
import ListInvocation.Config.Source
import ListInvocation.Config.Validation
import ListInvocation.Decimal.Natural
import ListInvocation.Decimal.Scientific
import ListInvocation.Dialect
import ListInvocation.Dialect.Comparison
import ListInvocation.Dialect.Composition
import ListInvocation.Dialect.Invocation
import ListInvocation.Dialect.Parsing
import ListInvocation.Failure
import ListInvocation.FileStore
import ListInvocation.Fixture.Arguments
import ListInvocation.Fixture.Class
import ListInvocation.Fixture.Demo
import ListInvocation.Fixture.Instances
import ListInvocation.Fixture.Recipe
import ListInvocation.Fixture.Registry
import ListInvocation.Fixture.Sample
import ListInvocation.Fixture.StoredState
import ListInvocation.Instruction
import ListInvocation.Main
import ListInvocation.Network.Address
import ListInvocation.Network.Host
import ListInvocation.NumberFormat
import ListInvocation.Pattern.Bracket
import ListInvocation.Pattern.Engine
import ListInvocation.Pattern.Error
import ListInvocation.Pattern.Escape
import ListInvocation.Pattern.Expression
import ListInvocation.Pattern.Library
import ListInvocation.Pattern.Meaning
import ListInvocation.Pattern.Reading
import ListInvocation.Pattern.Size
import ListInvocation.Pattern.Term
import ListInvocation.Platform
import ListInvocation.Proofs.CommandLine
import ListInvocation.Proofs.Config.AuditPath
import ListInvocation.Proofs.Config.Dependable
import ListInvocation.Proofs.Config.Validation
import ListInvocation.Proofs.Decimal.Integer
import ListInvocation.Proofs.Decimal.Natural
import ListInvocation.Proofs.Dialect.BuiltIn
import ListInvocation.Proofs.Dialect.Composition
import ListInvocation.Proofs.Dialect.Delimited
import ListInvocation.Proofs.Dialect.Dispatch
import ListInvocation.Proofs.Dialect.Extension
import ListInvocation.Proofs.Dialect.Invocation
import ListInvocation.Proofs.Dialect.Judgement
import ListInvocation.Proofs.Dialect.Movement
import ListInvocation.Proofs.Dialect.Parsing
import ListInvocation.Proofs.Dialect.Range
import ListInvocation.Proofs.Dialect.RoundTrip
import ListInvocation.Proofs.Dialect.Shape
import ListInvocation.Proofs.Fixture.Instances
import ListInvocation.Proofs.Fixture.Registry
import ListInvocation.Proofs.Instruction
import ListInvocation.Proofs.Server.Answer
import ListInvocation.Proofs.Server.Course
import ListInvocation.Proofs.Server.Device
import ListInvocation.Proofs.Server.Interleaving
import ListInvocation.Proofs.Server.Isolation
import ListInvocation.Proofs.Server.Regrouping
import ListInvocation.Proofs.Server.Trail
import ListInvocation.Proofs.Server.Transcript
import ListInvocation.Proofs.Session.Arguments
import ListInvocation.Proofs.Session.Atomicity
import ListInvocation.Proofs.Session.Batch
import ListInvocation.Proofs.Session.Calculator
import ListInvocation.Proofs.Session.Carrying
import ListInvocation.Proofs.Session.Journal
import ListInvocation.Proofs.Session.Operation
import ListInvocation.Proofs.Session.Reachable
import ListInvocation.Proofs.Session.Resolution
import ListInvocation.Proofs.Session.Tables
import ListInvocation.Proofs.Symbols
import ListInvocation.Proofs.Symbols.Agreement
import ListInvocation.Proofs.Table.Placement
import ListInvocation.Proofs.Table.Position
import ListInvocation.Proofs.Table.Removal
import ListInvocation.Proofs.Table.Runner
import ListInvocation.Proofs.Table.Script
import ListInvocation.Proofs.Table.WrongMarks
import ListInvocation.Proofs.Text.Blank
import ListInvocation.Proofs.Text.Bytes
import ListInvocation.Proofs.Wire.Border
import ListInvocation.Proofs.Wire.Canonical
import ListInvocation.Proofs.Wire.Chunking
import ListInvocation.Proofs.Wire.Counts
import ListInvocation.Proofs.Wire.Decoded
import ListInvocation.Proofs.Wire.Device
import ListInvocation.Proofs.Wire.Frame
import ListInvocation.Proofs.Wire.FrameReader
import ListInvocation.Proofs.Wire.Grammar
import ListInvocation.Proofs.Wire.Layout
import ListInvocation.Proofs.Wire.Nesting
import ListInvocation.Proofs.Wire.Port
import ListInvocation.Proofs.Wire.RoundTrip
import ListInvocation.Proofs.Wire.Spelling
import ListInvocation.Proofs.Wire.Stream
import ListInvocation.Server.Audit
import ListInvocation.Server.Conversation
import ListInvocation.Server.Device
import ListInvocation.Server.Error
import ListInvocation.Server.Host
import ListInvocation.Session
import ListInvocation.Symbols
import ListInvocation.Table.InstructionTable
import ListInvocation.Table.Report
import ListInvocation.Table.Runner
import ListInvocation.Table.Script
import ListInvocation.Text.Alphabet
import ListInvocation.Text.Alphanumeric
import ListInvocation.Text.Blank
import ListInvocation.Text.Bytes
import ListInvocation.Text.CharacterSet
import ListInvocation.Text.Hexadecimal
import ListInvocation.Toml.Document
import ListInvocation.Toml.Lexical
import ListInvocation.Toml.Quoted
import ListInvocation.Toml.Scalar
import ListInvocation.Toml.Table
import ListInvocation.Tree
import ListInvocation.Unicode.Age
import ListInvocation.Unicode.Binary
import ListInvocation.Unicode.CaseFolding
import ListInvocation.Unicode.Category
import ListInvocation.Unicode.GraphemeBreak
import ListInvocation.Unicode.Property
import ListInvocation.Unicode.PropertyTable
import ListInvocation.Unicode.Script
import ListInvocation.Unicode.ScriptExtensions
import ListInvocation.Unicode.SentenceBreak
import ListInvocation.Unicode.Word
import ListInvocation.Unicode.WordBreak
import ListInvocation.Value
import ListInvocation.ValueType
import ListInvocation.Wire.Device
import ListInvocation.Wire.Error
import ListInvocation.Wire.Frame
import ListInvocation.Wire.List
import ListInvocation.Wire.Stream
