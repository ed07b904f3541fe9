import Remedy.Cli
import Remedy.Config
import Remedy.Context.Forest
import Remedy.Context.Tree
import Remedy.Decimal.Read
import Remedy.Decimal.Shortest
import Remedy.Expr.Apply
import Remedy.Expr.Basic
import Remedy.Expr.Build
import Remedy.Expr.Eval
import Remedy.Expr.Func
import Remedy.Expr.Operator
import Remedy.Expr.Parser
import Remedy.Expr.Template
import Remedy.Facts
import Remedy.Hash.Blake3
import Remedy.Json.Basic
import Remedy.Json.Parser
import Remedy.Json.Printer
import Remedy.Json.Selection
import Remedy.Main
import Remedy.Pattern.Basic
import Remedy.Pattern.Class
import Remedy.Pattern.Room
import Remedy.Pattern.Parser
import Remedy.Pattern.Shape
import Remedy.Program.Basic
import Remedy.Program.Compile
import Remedy.Program.Contract
import Remedy.Program.Declaration
import Remedy.Program.Fingerprint
import Remedy.Program.System
import Remedy.Query
import Remedy.Query.Arguments
import Remedy.Query.Error
import Remedy.Query.Goals
import Remedy.Query.Host
import Remedy.Query.Machine
import Remedy.Query.Rehearsal
import Remedy.Query.Search
import Remedy.Repair.Action
import Remedy.Repair.Decision
import Remedy.Repair.Report
import Remedy.Repair.Executor
import Remedy.Repair.Ledger
import Remedy.Repair.Primitive
import Remedy.Repair.Request
import Remedy.Rule.Basic
import Remedy.Rule.Error
import Remedy.Rule.Layout
import Remedy.Rule.Parser
import Remedy.Session
import Remedy.SourceFile
import Remedy.Stack
import Remedy.Term.Basic
import Remedy.Term.Bindings
import Remedy.Term.Instance
import Remedy.Term.Parser
import Remedy.Term.Text
import Remedy.Term.VarTable
import Remedy.Text.Age
import Remedy.Text.Alphabetic
import Remedy.Text.Blank
import Remedy.Text.Break
import Remedy.Text.CaseFold
import Remedy.Text.LetterCase
import Remedy.Text.Category
import Remedy.Text.Marks
import Remedy.Text.Hex
import Remedy.Text.Identifier
import Remedy.Text.Letters
import Remedy.Text.Numbers
import Remedy.Text.Quoted
import Remedy.Text.Property
import Remedy.Text.Ranges
import Remedy.Text.Script
import Remedy.Text.Signs
import Remedy.Text.Usage
import Remedy.Text.Utf8
import Remedy.Timespan
import Remedy.Toml.Basic
import Remedy.Toml.Number
import Remedy.Toml.Parser
import Remedy.Toml.Table
import Remedy.Toml.Text
import Remedy.Value.Basic
import Remedy.Value.Document
import Remedy.Value.Order
import Remedy.Value.Text
import Remedy.Proofs.Bindings.Undo
import Remedy.Proofs.Query.Moves
import Remedy.Proofs.Query.Pace
import Remedy.Proofs.Context.Root
import Remedy.Proofs.Context.Shape
import Remedy.Proofs.Query.Leads
import Remedy.Proofs.Query.Resolution
import Remedy.Proofs.Query.Simulation
import Remedy.Proofs.Query.Correctness
import Remedy.Proofs.Bindings.Inside
import Remedy.Proofs.Program.Scope
import Remedy.Proofs.Facts
import Remedy.Proofs.Query.Slots
import Remedy.Proofs.Query.Once
import Remedy.Proofs.Query.Contexts
import Remedy.Proofs.Context.Lineage
import Remedy.Proofs.Context.Cancel
import Remedy.Proofs.Query.Standing
import Remedy.Proofs.Query.Cancellation
import Remedy.Proofs.Context.Stability
import Remedy.Proofs.Context.Waiting
import Remedy.Proofs.Query.Interruption
import Remedy.Proofs.Context.Neighbours
import Remedy.Proofs.Query.Calls
import Remedy.Proofs.Query.Answered
import Remedy.Proofs.Query.Stranded
import Remedy.Proofs.Context.Suspension
import Remedy.Proofs.Context.Resuming
import Remedy.Proofs.Context.Delivery
import Remedy.Proofs.Query.Spending
import Remedy.Proofs.Query.Chronicle
import Remedy.Proofs.Query.Cutoff
import Remedy.Proofs.Query.Ending
import Remedy.Proofs.Query.Limit
import Remedy.Proofs.Term.Variables
import Remedy.Proofs.Bindings.Equations
import Remedy.Proofs.Bindings.Meaning
import Remedy.Proofs.Program.Reading
import Remedy.Proofs.Program.Contracts
import Remedy.Proofs.Program.Checks
import Remedy.Proofs.Program.Names
import Remedy.Proofs.Program.Rules
import Remedy.Proofs.Program.Library
import Remedy.Proofs.Program.System
import Remedy.Proofs.Program.Items
import Remedy.Proofs.Program.Imprint
import Remedy.Proofs.Program.Fingerprint
import Remedy.Proofs.Query.Guard
import Remedy.Proofs.Query.Contracts
import Remedy.Proofs.Query.Choices
import Remedy.Proofs.Query.Privacy
import Remedy.Proofs.Query.Store
import Remedy.Proofs.Query.Recall
import Remedy.Proofs.Query.System
import Remedy.Proofs.Query.Matching
import Remedy.Proofs.Query.Lists
import Remedy.Proofs.Query.Fitting
import Remedy.Proofs.Query.Insertion
import Remedy.Proofs.Text.Characters
import Remedy.Proofs.Text.Bytes
import Remedy.Proofs.Value.Numerals
import Remedy.Proofs.Value.Doubles
import Remedy.Proofs.Value.Comparison
import Remedy.Proofs.Term.Plain
import Remedy.Proofs.Term.RoundTrip
import Remedy.Proofs.Rule.Identical
import Remedy.Proofs.Rule.Scan
import Remedy.Proofs.Rule.Written
import Remedy.Proofs.Rule.RoundTrip
import Remedy.Proofs.Query.Invocations
import Remedy.Proofs.Repair.Ledger
import Remedy.Proofs.Repair.Account
import Remedy.Proofs.Repair.Entities
import Remedy.Proofs.Bindings.Reach
import Remedy.Proofs.Bindings.Steps
import Remedy.Proofs.Bindings.Acyclic
import Remedy.Proofs.Bindings.Effort
import Remedy.Proofs.Bindings.Positional
import Remedy.Proofs.Bindings.Agreement
import Remedy.Proofs.Bindings.MostGeneral
import Remedy.Proofs.Query.Rewinding
import Remedy.Proofs.Query.Capture
import Remedy.Proofs.Expr.Agreement
import Remedy.Proofs.Expr.Folding
import Remedy.Proofs.Bindings.Ground
import Remedy.Proofs.Query.Retraction
import Remedy.Proofs.Program.Merging
import Remedy.Proofs.Program.Declarations
import Remedy.Proofs.Program.Order
import Remedy.Proofs.Expr.Grouping
import Remedy.Proofs.Expr.Precedence
import Remedy.Proofs.Expr.Spelling
import Remedy.Proofs.Expr.Inlining
import Remedy.Proofs.Rule.Layouts
import Remedy.Proofs.Repair.Deletion
import Remedy.Proofs.Expr.Arguments
import Remedy.Proofs.Expr.Templates
import Remedy.Proofs.Expr.Printing
import Remedy.Proofs.Expr.Arithmetic
import Remedy.Proofs.Expr.Positions
import Remedy.Proofs.Bindings.Chains
import Remedy.Proofs.Term.Flagged
