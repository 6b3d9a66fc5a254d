import RouteDoc.Check.Basic
import RouteDoc.Check.Datum
import RouteDoc.ClassName
import RouteDoc.Command.Basic
import RouteDoc.Command.Database
import RouteDoc.Command.Run
import RouteDoc.Config.Basic
import RouteDoc.Config.Load
import RouteDoc.Detection
import RouteDoc.Document.Build
import RouteDoc.Document.Format
import RouteDoc.Document.Statistics
import RouteDoc.Fault
import RouteDoc.FileTree
import RouteDoc.Json.Reader
import RouteDoc.Json.Writer
import RouteDoc.Main
import RouteDoc.Number.Binary64
import RouteDoc.Number.Numeral
import RouteDoc.Number.Rounding
import RouteDoc.Number.Shortest
import RouteDoc.Operation.Assembly
import RouteDoc.Operation.Basic
import RouteDoc.Operation.Envelope
import RouteDoc.Operation.Naming
import RouteDoc.Record.Override
import RouteDoc.Record.Schema
import RouteDoc.Record.SecurityScheme
import RouteDoc.Route.Basic
import RouteDoc.Route.Filter
import RouteDoc.Route.Inventory
import RouteDoc.Route.Path
import RouteDoc.Rule.Basic
import RouteDoc.Rule.Mapping
import RouteDoc.Rule.Placement
import RouteDoc.Rule.Transform
import RouteDoc.Schema.Binary
import RouteDoc.Schema.Merge
import RouteDoc.Schema.References
import RouteDoc.Schema.Registry
import RouteDoc.Security.Basic
import RouteDoc.Security.Middleware
import RouteDoc.Security.Schemes
import RouteDoc.Shape.Basic
import RouteDoc.Shape.Inference
import RouteDoc.Shape.Inferencer
import RouteDoc.Shape.Names
import RouteDoc.Source.Analysis
import RouteDoc.Source.Controller
import RouteDoc.Source.Cursor
import RouteDoc.Source.Declaration
import RouteDoc.Source.Expression
import RouteDoc.Source.File
import RouteDoc.Source.Index
import RouteDoc.Source.Issue
import RouteDoc.Source.Literal
import RouteDoc.Source.QueryParameters
import RouteDoc.Source.Resource
import RouteDoc.Source.Rules
import RouteDoc.Source.Shape
import RouteDoc.Source.Syntax
import RouteDoc.Source.Token
import RouteDoc.Store.Basic
import RouteDoc.Store.Diff
import RouteDoc.Store.File
import RouteDoc.Store.Memory
import RouteDoc.Store.Overrides
import RouteDoc.Store.Rows
import RouteDoc.Table
import RouteDoc.Terminal.Table
import RouteDoc.Terminal.Width
import RouteDoc.Terminal.Wrap
import RouteDoc.Text.Blank
import RouteDoc.Text.Case
import RouteDoc.Text.Digit
import RouteDoc.Text.Pattern
import RouteDoc.Text.Pieces
import RouteDoc.Text.Printable
import RouteDoc.Text.Quoted
import RouteDoc.Text.Ranges
import RouteDoc.Text.Word
import RouteDoc.Value
import RouteDoc.Workflow
import RouteDoc.Yaml.Node
import RouteDoc.Yaml.Plain
import RouteDoc.Yaml.Reader
import RouteDoc.Yaml.Scalar
import RouteDoc.Yaml.Text
import RouteDoc.Yaml.Token
import RouteDoc.Yaml.Writer
import RouteDoc.Proofs.Rule.FieldSchema
import RouteDoc.Proofs.Rule.Nodes
import RouteDoc.Proofs.Rule.Exact
import RouteDoc.Proofs.Rule.Leaf
import RouteDoc.Proofs.Rule.Parents
import RouteDoc.Proofs.Document.Run
import RouteDoc.Proofs.Operation.Identifiers
import RouteDoc.Proofs.Document.Identifiers
import RouteDoc.Proofs.Schema.Mentions
import RouteDoc.Proofs.Document.References
import RouteDoc.Proofs.Store.Diff
import RouteDoc.Proofs.Store.Memory
import RouteDoc.Proofs.Store.Rows
import RouteDoc.Proofs.Workflow.Scan
import RouteDoc.Proofs.Schema.Completion
import RouteDoc.Proofs.Schema.Build
import RouteDoc.Proofs.Source.References
import RouteDoc.Proofs.Source.Resources
import RouteDoc.Proofs.Source.Caching
import RouteDoc.Proofs.Store.Sessions
import RouteDoc.Proofs.Operation.Assembly
import RouteDoc.Proofs.Operation.Slots
import RouteDoc.Proofs.Document.Success
import RouteDoc.Proofs.Document.Paths
import RouteDoc.Proofs.Document.Visibility
import RouteDoc.Proofs.Document.Growth
import RouteDoc.Proofs.Security.Schemes
import RouteDoc.Proofs.Document.Security
import RouteDoc.Proofs.Rule.WellFormed
import RouteDoc.Proofs.Workflow.Sync
import RouteDoc.Proofs.Outcome
import RouteDoc.Proofs.Route.Path
import RouteDoc.Proofs.Route.Inventory
import RouteDoc.Proofs.Operation.Parameters
import RouteDoc.Proofs.Schema.Merge
import RouteDoc.Proofs.Rule.Application
import RouteDoc.Proofs.Operation.Responses
import RouteDoc.Proofs.Document.Credentials
import RouteDoc.Proofs.Shape.Logging
import RouteDoc.Proofs.Shape.Flattening
import RouteDoc.Proofs.Shape.References
import RouteDoc.Proofs.Operation.Components
import RouteDoc.Proofs.Source.Tags
import RouteDoc.Proofs.Source.Docblock
import RouteDoc.Proofs.Operation.Distinct
import RouteDoc.Proofs.Operation.Headline
import RouteDoc.Proofs.Source.Literal
import RouteDoc.Proofs.Source.MediaType
import RouteDoc.Proofs.Rule.Required
import RouteDoc.Proofs.Rule.Pattern
