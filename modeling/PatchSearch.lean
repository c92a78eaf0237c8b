import PatchSearch.CommandLine.Execution
import PatchSearch.CommandLine.Grammar
import PatchSearch.CommandLine.Options
import PatchSearch.CommandLine.Session
import PatchSearch.Decimal.Binary
import PatchSearch.Decimal.Fixed
import PatchSearch.Decimal.Layout
import PatchSearch.Decimal.Literal
import PatchSearch.Decimal.Nearest
import PatchSearch.Decimal.Shortest
import PatchSearch.Edit.Basic
import PatchSearch.Edit.Data
import PatchSearch.Edit.Mutation
import PatchSearch.Evaluation.Evaluator
import PatchSearch.Evaluation.Target
import PatchSearch.Evaluation.Usage
import PatchSearch.Evaluation.Verdict
import PatchSearch.Failure
import PatchSearch.Files.Basic
import PatchSearch.Files.Handle
import PatchSearch.Files.Path
import PatchSearch.Generation.Feedback
import PatchSearch.Generation.Fence
import PatchSearch.Generation.Generator
import PatchSearch.Generation.Scripted
import PatchSearch.Generation.Service
import PatchSearch.Generation.Template
import PatchSearch.Harness.Command
import PatchSearch.Harness.Energy
import PatchSearch.Harness.Workplace
import PatchSearch.Json.Basic
import PatchSearch.Json.Decode
import PatchSearch.Json.Number
import PatchSearch.Json.Reader
import PatchSearch.Json.Writer
import PatchSearch.Main
import PatchSearch.Proofs.Statement.Draft
import PatchSearch.Proofs.Statement.Lexemes
import PatchSearch.Proofs.Statement.Pending
import PatchSearch.Random
import PatchSearch.Search.Config
import PatchSearch.Search.Genetic
import PatchSearch.Search.KBest
import PatchSearch.Search.Local
import PatchSearch.Search.Report
import PatchSearch.Search.Storage
import PatchSearch.Shell.Arithmetic
import PatchSearch.Shell.Awk.Basic
import PatchSearch.Shell.Awk.Matching
import PatchSearch.Shell.Awk.Reader
import PatchSearch.Shell.Awk.Run
import PatchSearch.Shell.Awk.State
import PatchSearch.Shell.Awk.Token
import PatchSearch.Shell.Awk.Value
import PatchSearch.Shell.Builtin.Directory
import PatchSearch.Shell.Builtin.Output
import PatchSearch.Shell.Builtin.Processes
import PatchSearch.Shell.Builtin.Variables
import PatchSearch.Shell.Call
import PatchSearch.Shell.CharSet
import PatchSearch.Shell.Command
import PatchSearch.Shell.Condition
import PatchSearch.Shell.Digest
import PatchSearch.Shell.Expansion
import PatchSearch.Shell.FileMode
import PatchSearch.Shell.Format
import PatchSearch.Shell.Glob
import PatchSearch.Shell.Launch
import PatchSearch.Shell.LineChanges
import PatchSearch.Shell.Machine
import PatchSearch.Shell.Number
import PatchSearch.Shell.Printf
import PatchSearch.Shell.Program
import PatchSearch.Shell.Reader
import PatchSearch.Shell.Regex
import PatchSearch.Shell.Regex.Reader
import PatchSearch.Shell.Run
import PatchSearch.Shell.Runner
import PatchSearch.Shell.Sed.Basic
import PatchSearch.Shell.Sed.Reader
import PatchSearch.Shell.Sed.Run
import PatchSearch.Shell.Signal
import PatchSearch.Shell.Syntax
import PatchSearch.Shell.Token
import PatchSearch.Shell.Utility.Awk
import PatchSearch.Shell.Utility.Compare
import PatchSearch.Shell.Utility.Fields
import PatchSearch.Shell.Utility.Find
import PatchSearch.Shell.Utility.Grep
import PatchSearch.Shell.Utility.Lines
import PatchSearch.Shell.Utility.Listing
import PatchSearch.Shell.Utility.Moving
import PatchSearch.Shell.Utility.Numbers
import PatchSearch.Shell.Utility.Paths
import PatchSearch.Shell.Utility.Pieces
import PatchSearch.Shell.Utility.Places
import PatchSearch.Shell.Utility.Sed
import PatchSearch.Shell.Utility.Sort
import PatchSearch.Shell.Utility.Sums
import PatchSearch.Shell.Utility.System
import PatchSearch.Shell.Utility.Table
import PatchSearch.Shell.Utility.Translate
import PatchSearch.Shell.Utility.Xargs
import PatchSearch.Shell.World
import PatchSearch.Statement.Basic
import PatchSearch.Statement.Header
import PatchSearch.Statement.Lexeme
import PatchSearch.Statement.Printer
import PatchSearch.Statement.Reader
import PatchSearch.Text.Alphanumeric
import PatchSearch.Text.Blank
import PatchSearch.Text.Bytewise
import PatchSearch.Text.Integer
import PatchSearch.Text.Printable
import PatchSearch.Text.Quoted
import PatchSearch.Text.Search
import PatchSearch.Text.Utf8
import PatchSearch.Tree.Basic
import PatchSearch.Proofs.Statement.Readable
import PatchSearch.Proofs.Statement.RoundTrip
import PatchSearch.Proofs.Tree.Place
import PatchSearch.Proofs.Tree.Splice
import PatchSearch.Proofs.Tree.Validity
import PatchSearch.Proofs.Edit.Changes
import PatchSearch.Proofs.Edit.Reachable
import PatchSearch.Proofs.Edit.Rendering
import PatchSearch.Proofs.Tree.Members
import PatchSearch.Proofs.Tree.Confined
import PatchSearch.Proofs.Edit.Mutation
import PatchSearch.Proofs.Search.Local
import PatchSearch.Proofs.Search.KBest
import PatchSearch.Proofs.Search.Genetic
import PatchSearch.Proofs.Search.Confinement
import PatchSearch.Proofs.Double
import PatchSearch.Proofs.Evaluation.Calls
import PatchSearch.Proofs.Generation.Generator
import PatchSearch.Proofs.Edit.Rewriting
import PatchSearch.Proofs.Search.Trial
import PatchSearch.Proofs.Search.LocalTrace
import PatchSearch.Proofs.Search.GeneticTrace
import PatchSearch.Proofs.Search.Best
import PatchSearch.Proofs.Search.Buffer
import PatchSearch.Proofs.Search.Honesty
import PatchSearch.Proofs.Search.Applicable
import PatchSearch.Proofs.Edit.Dangling
import PatchSearch.Proofs.Edit.Omission
import PatchSearch.Proofs.Search.Offers
import PatchSearch.Proofs.Search.Budget
import PatchSearch.Proofs.Search.Prompting
import PatchSearch.Proofs.Statement.Cutting
import PatchSearch.Proofs.Statement.Pieces
import PatchSearch.Proofs.Statement.Brackets
import PatchSearch.Proofs.Tree.History
import PatchSearch.Proofs.Double.Difference
import PatchSearch.Proofs.Search.Improvement
import PatchSearch.Proofs.Edit.Declarations
import PatchSearch.Proofs.Tree.Substitution
import PatchSearch.Proofs.Edit.Overwriting
import PatchSearch.Proofs.Json.Tokens
import PatchSearch.Proofs.Json.Reading
import PatchSearch.Proofs.Edit.Encoding
import PatchSearch.Proofs.Files.Growth
import PatchSearch.Proofs.Search.Keeping
import PatchSearch.Proofs.Search.Unadopted
import PatchSearch.Proofs.CommandLine.Dispatch
import PatchSearch.Proofs.CommandLine.Restoring
import PatchSearch.Proofs.Search.Restart
import PatchSearch.Proofs.Tree.Descent
import PatchSearch.Proofs.Tree.Survival
import PatchSearch.Proofs.Edit.Splicing
import PatchSearch.Proofs.Edit.Mismatch
import PatchSearch.Proofs.Tree.Rearrangement
import PatchSearch.Proofs.Edit.Effects
import PatchSearch.Proofs.Edit.Meaning
import PatchSearch.Proofs.Generation.Substitution
import PatchSearch.Proofs.Generation.Fenced
import PatchSearch.Proofs.Statement.Progress
import PatchSearch.Proofs.Statement.Seams
import PatchSearch.Proofs.Generation.Suggestion
import PatchSearch.Proofs.Statement.Opacity
import PatchSearch.Proofs.Statement.Composition
import PatchSearch.Proofs.Statement.Offsets
import PatchSearch.Proofs.Search.Drawing
import PatchSearch.Proofs.Search.Crossover
import PatchSearch.Proofs.Search.Tournament
import PatchSearch.Proofs.Evaluation.Sampling
import PatchSearch.Proofs.Harness.Classification
import PatchSearch.Proofs.Statement.MethodName
import PatchSearch.Proofs.Harness.Counting
import PatchSearch.Proofs.Tree.Numbering
import PatchSearch.Proofs.Statement.Scanning
import PatchSearch.Proofs.Statement.TypeWords
import PatchSearch.Proofs.Tree.MethodBody
