import BlockGraph.Analysis.Arena
import BlockGraph.Analysis.Resolve
import BlockGraph.Analysis.Scope
import BlockGraph.Batch.Cache
import BlockGraph.Batch.Compile
import BlockGraph.Batch.Group
import BlockGraph.Batch.Event
import BlockGraph.Batch.Inputs
import BlockGraph.Catalogue.Operators
import BlockGraph.Catalogue.Primitives
import BlockGraph.Cli.Command
import BlockGraph.Cli.Flags
import BlockGraph.Cli.Help
import BlockGraph.Cli.Run
import BlockGraph.Cli.Value
import BlockGraph.Compilation
import BlockGraph.Decimal.Read
import BlockGraph.Decimal.Shortest
import BlockGraph.Diagnostic.Basic
import BlockGraph.Diagnostic.Render
import BlockGraph.Digest.Sha256
import BlockGraph.Disk.Glob
import BlockGraph.Disk.Tree
import BlockGraph.Dump.Document
import BlockGraph.Dump.Encode
import BlockGraph.Dump.Format
import BlockGraph.Dump.FromJson
import BlockGraph.Dump.FromMsgpack
import BlockGraph.Golden.Case
import BlockGraph.Graph.Block
import BlockGraph.Graph.Buffer
import BlockGraph.Graph.Emit
import BlockGraph.Graph.Generate
import BlockGraph.Graph.Writer
import BlockGraph.Inspect.Check
import BlockGraph.Inspect.Graph
import BlockGraph.Json.Raw
import BlockGraph.Json.Read
import BlockGraph.Json.Value
import BlockGraph.Main
import BlockGraph.Manifest.Project
import BlockGraph.Manifest.Toml
import BlockGraph.Markdown.Blocks
import BlockGraph.Markdown.Chars
import BlockGraph.Markdown.Html
import BlockGraph.Markdown.Inline
import BlockGraph.Markdown.Pattern
import BlockGraph.Markdown.Reference
import BlockGraph.Msgpack.Value
import BlockGraph.Program.Build
import BlockGraph.Program.Names
import BlockGraph.Program.Syntax
import BlockGraph.Progress.Board
import BlockGraph.Source.Files
import BlockGraph.Source.Path
import BlockGraph.Source.Span
import BlockGraph.Storage
import BlockGraph.Text.Case
import BlockGraph.Text.Fold
import BlockGraph.Text.Quoted
import BlockGraph.Text.Utf8
import BlockGraph.Timing.Timer
import BlockGraph.Trace.Event
import BlockGraph.Trace.Tracer
import BlockGraph.Unicode.CanonicalData
import BlockGraph.Unicode.Composed
import BlockGraph.Unicode.Grapheme
import BlockGraph.Unicode.PrintableData
import BlockGraph.Unicode.Table
import BlockGraph.Unicode.Width
import BlockGraph.Unicode.WidthData
import BlockGraph.Version
import BlockGraph.Proofs.Resolve.Meaning
import BlockGraph.Proofs.Resolve.ArenaStep
import BlockGraph.Proofs.Resolve.ArenaWalk
import BlockGraph.Proofs.Emission.Graph
import BlockGraph.Proofs.Emission.Node
import BlockGraph.Proofs.Emission.Expr
import BlockGraph.Proofs.Emission.Stmt
import BlockGraph.Proofs.Emission.Target
import BlockGraph.Proofs.Program.Primitives
import BlockGraph.Proofs.Program.Compiled
import BlockGraph.Proofs.Json.Grammar
import BlockGraph.Proofs.Json.Stream
import BlockGraph.Proofs.Emission.Text
import BlockGraph.Proofs.Emission.Document
import BlockGraph.Proofs.Resolve.Normal
import BlockGraph.Proofs.Emission.Stops
import BlockGraph.Proofs.Emission.Errors
import BlockGraph.Proofs.Emission.FirstError
import BlockGraph.Proofs.Program.Sourced
import BlockGraph.Proofs.Emission.Faults
import BlockGraph.Proofs.Batch.Failures
import BlockGraph.Proofs.Program.Building
import BlockGraph.Proofs.Program.Acceptance
import BlockGraph.Proofs.Program.Declarations
import BlockGraph.Proofs.Emission.Keys
import BlockGraph.Proofs.Program.Assignments
import BlockGraph.Proofs.Resolve.Arguments
import BlockGraph.Proofs.Resolve.Expansion
import BlockGraph.Proofs.Emission.Appends
import BlockGraph.Proofs.Emission.Calls
import BlockGraph.Proofs.Source.Positions
import BlockGraph.Proofs.Diagnostic.Snippets
import BlockGraph.Proofs.Emission.Menus
import BlockGraph.Proofs.Dump.Zeros
import BlockGraph.Proofs.Diagnostic.Collection
import BlockGraph.Proofs.Emission.Buffer
import BlockGraph.Proofs.Trace.Ring
import BlockGraph.Proofs.Batch.Progress
import BlockGraph.Proofs.Progress.Monotone
import BlockGraph.Proofs.Source.LineEndings
import BlockGraph.Proofs.Inspect.Rules
import BlockGraph.Proofs.Diagnostic.Severity
import BlockGraph.Proofs.Batch.Entries
import BlockGraph.Proofs.Batch.Store
import BlockGraph.Proofs.Batch.Uncached
import BlockGraph.Proofs.Batch.Transparency
import BlockGraph.Proofs.Batch.Concurrent
import BlockGraph.Proofs.Emission.Reads
import BlockGraph.Proofs.Resolve.Records
