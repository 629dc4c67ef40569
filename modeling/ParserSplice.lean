import ParserSplice.Artifact.Basic
import ParserSplice.Artifact.Content
import ParserSplice.Artifact.Digest
import ParserSplice.Category
import ParserSplice.CommandLine
import ParserSplice.Derivation
import ParserSplice.Document.Composition
import ParserSplice.Document.Fragment
import ParserSplice.Document.Grammar
import ParserSplice.Emission.Constants
import ParserSplice.Emission.Dispatch
import ParserSplice.Emission.Driver
import ParserSplice.Emission.Header
import ParserSplice.Emission.Interface
import ParserSplice.Emission.Options
import ParserSplice.Engine.Action
import ParserSplice.Engine.Basic
import ParserSplice.Engine.Conflict
import ParserSplice.Engine.Contents
import ParserSplice.Engine.Layout
import ParserSplice.Engine.Marking
import ParserSplice.Engine.Names
import ParserSplice.Engine.ParseTables
import ParserSplice.Engine.Tables
import ParserSplice.Engine.TerminalUse
import ParserSplice.Error
import ParserSplice.Fragment.Basic
import ParserSplice.Fragment.Column
import ParserSplice.Fragment.Table
import ParserSplice.Generation.Basic
import ParserSplice.Generation.Storage
import ParserSplice.Grammar.Spec
import ParserSplice.Grammar.Symbol
import ParserSplice.Index
import ParserSplice.Json.Codec
import ParserSplice.Json.Decode
import ParserSplice.Json.Reader
import ParserSplice.Json.Token
import ParserSplice.Json.Value
import ParserSplice.Main
import ParserSplice.Ordered.Map
import ParserSplice.Ordered.RangeSet
import ParserSplice.Ordered.Set
import ParserSplice.Partition.Basic
import ParserSplice.Partition.Data
import ParserSplice.Partition.States
import ParserSplice.Partition.Symbols
import ParserSplice.Proofs.Artifact.Loading
import ParserSplice.Proofs.Derivation.Drawing
import ParserSplice.Proofs.Derivation.Lines
import ParserSplice.Proofs.Document.Composition
import ParserSplice.Proofs.Document.Grammar
import ParserSplice.Proofs.Emission.ArtifactBlocks
import ParserSplice.Proofs.Emission.Carrying
import ParserSplice.Proofs.Emission.Comments
import ParserSplice.Proofs.Emission.DriverComments
import ParserSplice.Proofs.Emission.Lexing
import ParserSplice.Proofs.Emission.NameLookup
import ParserSplice.Proofs.Emission.NameTables
import ParserSplice.Proofs.Emission.Reading
import ParserSplice.Proofs.Emission.TerminalNames
import ParserSplice.Proofs.Engine.Building
import ParserSplice.Proofs.Engine.Cell
import ParserSplice.Proofs.Engine.ComposedStates
import ParserSplice.Proofs.Engine.Confinement
import ParserSplice.Proofs.Engine.Copy
import ParserSplice.Proofs.Engine.Dispatch
import ParserSplice.Proofs.Engine.Expectation
import ParserSplice.Proofs.Engine.Faults
import ParserSplice.Proofs.Engine.Filling
import ParserSplice.Proofs.Engine.Independence
import ParserSplice.Proofs.Engine.Layout
import ParserSplice.Proofs.Engine.MarkingColumns
import ParserSplice.Proofs.Engine.MarkingRecognition
import ParserSplice.Proofs.Engine.MissingStates
import ParserSplice.Proofs.Engine.Placement
import ParserSplice.Proofs.Engine.Reductions
import ParserSplice.Proofs.Engine.Rows
import ParserSplice.Proofs.Engine.TerminalUses
import ParserSplice.Proofs.Engine.Trace
import ParserSplice.Proofs.Engine.Translation
import ParserSplice.Proofs.Generation.Output
import ParserSplice.Proofs.Indexing.Basic
import ParserSplice.Proofs.Indexing.Board
import ParserSplice.Proofs.Indexing.Building
import ParserSplice.Proofs.Indexing.Copying
import ParserSplice.Proofs.Indexing.Driver
import ParserSplice.Proofs.Indexing.Filling
import ParserSplice.Proofs.Indexing.Partition
import ParserSplice.Proofs.Indexing.References
import ParserSplice.Proofs.Indexing.Scanning
import ParserSplice.Proofs.Json.Codec
import ParserSplice.Proofs.Json.Reading
import ParserSplice.Proofs.Json.Scalar
import ParserSplice.Proofs.Ordered
import ParserSplice.Proofs.Partition.Bijection
import ParserSplice.Proofs.Partition.Columns
import ParserSplice.Proofs.Partition.Consistency
import ParserSplice.Proofs.Partition.HostNumbers
import ParserSplice.Proofs.Partition.Numbering
import ParserSplice.Proofs.Partition.Recovery
import ParserSplice.Proofs.Partition.StateDiagnostics
import ParserSplice.Proofs.Partition.StateNumbering
import ParserSplice.Proofs.Partition.SymbolFaults
import ParserSplice.Proofs.RangeSet
import ParserSplice.Proofs.Regex.Matching
import ParserSplice.Proofs.Regex.Utf8
import ParserSplice.Proofs.Scanner.Bounds
import ParserSplice.Proofs.Scanner.Compiling
import ParserSplice.Proofs.Scanner.Fixpoint
import ParserSplice.Proofs.Scanner.Flattening
import ParserSplice.Proofs.Scanner.Merging
import ParserSplice.Proofs.Scanner.Numbering
import ParserSplice.Proofs.Scanner.Possible
import ParserSplice.Proofs.Scanner.Progress
import ParserSplice.Proofs.Scanner.Recognition
import ParserSplice.Proofs.Scanner.Search
import ParserSplice.Proofs.Sizing.Copying
import ParserSplice.Proofs.Sizing.Layout
import ParserSplice.Proofs.Sizing.Sums
import ParserSplice.Proofs.Traversal
import ParserSplice.Proofs.WireForm
import ParserSplice.Regex.ClassReader
import ParserSplice.Regex.Cursor
import ParserSplice.Regex.Escape
import ParserSplice.Regex.Fault
import ParserSplice.Regex.Meaning
import ParserSplice.Regex.Pattern
import ParserSplice.Regex.Reader
import ParserSplice.Regex.Term
import ParserSplice.Report.Location
import ParserSplice.Report.SyntaxError
import ParserSplice.Scanner.Automaton
import ParserSplice.Scanner.Build
import ParserSplice.Scanner.Library
import ParserSplice.Scanner.Minimal
import ParserSplice.Scanner.Possible
import ParserSplice.Scanner.Table
import ParserSplice.Text.Chunk
import ParserSplice.Text.Hex
import ParserSplice.Text.Quoted
import ParserSplice.Unicode.Addition
import ParserSplice.Unicode.Age
import ParserSplice.Unicode.CaseVariants
import ParserSplice.Unicode.DerivedProperty
import ParserSplice.Unicode.GeneralCategory
import ParserSplice.Unicode.GraphemeBreak
import ParserSplice.Unicode.Letter
import ParserSplice.Unicode.Property
import ParserSplice.Unicode.RangeText
import ParserSplice.Unicode.Script
import ParserSplice.Unicode.ScriptExtension
import ParserSplice.Unicode.SentenceBreak
import ParserSplice.Unicode.SetExpr
import ParserSplice.Unicode.TabledProperty
import ParserSplice.Unicode.Uppercase
import ParserSplice.Unicode.Visible
import ParserSplice.Unicode.WhiteSpace
import ParserSplice.Unicode.WordBreak
