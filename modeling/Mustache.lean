import Mustache.Command.Arguments
import Mustache.Command.Run
import Mustache.Config
import Mustache.Content
import Mustache.Data
import Mustache.Data.Formats
import Mustache.Decimal.Read
import Mustache.Decimal.Shortest
import Mustache.Decimal.Text
import Mustache.Document
import Mustache.Entries
import Mustache.Expr.Basic
import Mustache.Expr.Reader
import Mustache.Files.Path
import Mustache.Files.Tree
import Mustache.Json.Parse
import Mustache.Json.Print
import Mustache.Json.Token
import Mustache.Library
import Mustache.Main
import Mustache.Node
import Mustache.Render.Engine
import Mustache.Render.Error
import Mustache.Render.Evaluate
import Mustache.Render.Host
import Mustache.Render.Trace
import Mustache.Scope
import Mustache.Script.Basic
import Mustache.Script.Host
import Mustache.Source.Compile
import Mustache.Source.Delimiters
import Mustache.Source.Error
import Mustache.Source.Token
import Mustache.Template.Basic
import Mustache.Template.Error
import Mustache.Template.Loader
import Mustache.Template.Repository
import Mustache.Text.Alphanumeric
import Mustache.Text.Blank
import Mustache.Text.CaseTable
import Mustache.Text.Casing
import Mustache.Text.CharRange
import Mustache.Text.Printable
import Mustache.Text.Quoted
import Mustache.Value.Basic
import Mustache.Value.Describe
import Mustache.Yaml.Resolve
import Mustache.Yaml.Scalar
import Mustache.Yaml.Token
import Mustache.Yaml.Tree
import Mustache.Proofs.Render.Bodies
import Mustache.Proofs.Render.Spans
import Mustache.Proofs.Render.HookTrace
import Mustache.Proofs.Render.Escaping
import Mustache.Proofs.Source.Marks
import Mustache.Proofs.Source.Reading
import Mustache.Proofs.Expr.RoundTrip
import Mustache.Proofs.Source.Fragments
import Mustache.Proofs.Source.Printing
import Mustache.Proofs.Source.NestedSource
import Mustache.Proofs.Render.Comparison
import Mustache.Proofs.Render.RecursionLimit
import Mustache.Proofs.Render.Inlining
import Mustache.Proofs.Expr.Spacing
import Mustache.Proofs.Source.ClosingTags
import Mustache.Proofs.Template.Cache
import Mustache.Proofs.Template.Sessions
import Mustache.Proofs.Render.ChainSimulation
import Mustache.Proofs.Render.ChainViews
import Mustache.Proofs.Render.TransparentHooks
import Mustache.Proofs.Files.Paths
import Mustache.Proofs.Files.Trees
import Mustache.Proofs.Template.Discovery
import Mustache.Proofs.Command.Check
import Mustache.Proofs.Expr.Acceptance
import Mustache.Proofs.Render.Sections
import Mustache.Proofs.Render.OverlookedScopes
import Mustache.Proofs.Render.Termination
import Mustache.Proofs.Source.Positions
import Mustache.Proofs.Source.ErrorPositions
import Mustache.Proofs.Source.Locality
import Mustache.Proofs.Render.EvaluationOrder
import Mustache.Proofs.Render.Iteration
import Mustache.Proofs.Template.Containment
import Mustache.Proofs.Render.HtmlEncoding
import Mustache.Proofs.Files.Writing
import Mustache.Proofs.Command.Render
import Mustache.Proofs.Source.Offsets
import Mustache.Proofs.Expr.Descent
import Mustache.Proofs.Source.Turns
import Mustache.Proofs.Source.Progress
import Mustache.Proofs.Text.Capitalization
