import Unbundle.Amd.Binding
import Unbundle.Amd.Definition
import Unbundle.Cli
import Unbundle.Cli.Filter
import Unbundle.Cli.Options
import Unbundle.Config
import Unbundle.Config.Files
import Unbundle.Config.Layer
import Unbundle.Decimal.Shortest
import Unbundle.Disk
import Unbundle.Disk.Listing
import Unbundle.Engine
import Unbundle.Engine.Identifier
import Unbundle.Engine.Substitution
import Unbundle.Engine.Visit
import Unbundle.Engine.Walk
import Unbundle.Formatter
import Unbundle.Imports
import Unbundle.Log
import Unbundle.Main
import Unbundle.Module
import Unbundle.Naming
import Unbundle.Path
import Unbundle.Program
import Unbundle.Proofs.Allocation
import Unbundle.Proofs.Binding
import Unbundle.Proofs.Capture
import Unbundle.Proofs.Composition
import Unbundle.Proofs.Containment
import Unbundle.Proofs.Declared
import Unbundle.Proofs.Defining
import Unbundle.Proofs.Definitions
import Unbundle.Proofs.Diagnostics
import Unbundle.Proofs.DirectRewrite
import Unbundle.Proofs.DocumentKeys
import Unbundle.Proofs.Emission
import Unbundle.Proofs.Encounters
import Unbundle.Proofs.Entries
import Unbundle.Proofs.Factory
import Unbundle.Proofs.Findings
import Unbundle.Proofs.Frame
import Unbundle.Proofs.Growth
import Unbundle.Proofs.History
import Unbundle.Proofs.Hygiene
import Unbundle.Proofs.ImportList
import Unbundle.Proofs.ImportNames
import Unbundle.Proofs.Independence
import Unbundle.Proofs.Inside
import Unbundle.Proofs.Layering
import Unbundle.Proofs.Leaves
import Unbundle.Proofs.LexicalScope
import Unbundle.Proofs.Locals
import Unbundle.Proofs.Naming
import Unbundle.Proofs.Occurrences
import Unbundle.Proofs.Outline
import Unbundle.Proofs.Outside
import Unbundle.Proofs.Ownership
import Unbundle.Proofs.ParameterNames
import Unbundle.Proofs.Place
import Unbundle.Proofs.PropertyNames
import Unbundle.Proofs.Purge
import Unbundle.Proofs.Quoting
import Unbundle.Proofs.Recognition
import Unbundle.Proofs.Remains
import Unbundle.Proofs.Renaming
import Unbundle.Proofs.Rerun
import Unbundle.Proofs.Rewrite
import Unbundle.Proofs.Runs
import Unbundle.Proofs.Saving
import Unbundle.Proofs.SecondPass
import Unbundle.Proofs.Segments
import Unbundle.Proofs.Shadowing
import Unbundle.Proofs.Steps
import Unbundle.Proofs.Surroundings
import Unbundle.Proofs.TopLevel
import Unbundle.Proofs.Trace
import Unbundle.Proofs.TwoPasses
import Unbundle.Proofs.Unhandled
import Unbundle.Proofs.Unsupplied
import Unbundle.Proofs.Writes
import Unbundle.Run
import Unbundle.Scope
import Unbundle.Scope.Declarations
import Unbundle.Script.Numeral
import Unbundle.Script.Parser
import Unbundle.Script.Parser.Expression
import Unbundle.Script.Parser.Function
import Unbundle.Script.Parser.Monad
import Unbundle.Script.Parser.Pattern
import Unbundle.Script.Parser.Statement
import Unbundle.Script.Printer
import Unbundle.Script.Problem
import Unbundle.Script.Quoted
import Unbundle.Script.Spelling
import Unbundle.Script.Token
import Unbundle.Script.Token.Lexer
import Unbundle.Script.Tree
import Unbundle.Source.Span
import Unbundle.Summary
import Unbundle.Text.Character
import Unbundle.Text.Identifier
import Unbundle.Text.Layout
import Unbundle.Text.LetterCase
import Unbundle.Text.PascalCase
import Unbundle.Text.Utf8
import Unbundle.Toml.Moment
import Unbundle.Toml.Problem
import Unbundle.Toml.Quoted
import Unbundle.Toml.Scalar
import Unbundle.Toml.Table
import Unbundle.Toml.Token
import Unbundle.Toml.Written
import Unbundle.Writer
