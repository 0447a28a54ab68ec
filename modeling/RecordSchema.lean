import RecordSchema.Calendar.Date
import RecordSchema.Calendar.Reader
import RecordSchema.Change
import RecordSchema.Check.Call
import RecordSchema.Check.Engine
import RecordSchema.Check.Message
import RecordSchema.Check.Standard
import RecordSchema.Collection.Basic
import RecordSchema.CommandLine.Arguments
import RecordSchema.CommandLine.Command
import RecordSchema.CommandLine.Run
import RecordSchema.Error
import RecordSchema.Fields
import RecordSchema.Format.Email
import RecordSchema.Format.Url
import RecordSchema.Format.Uuid
import RecordSchema.Json.Printer
import RecordSchema.Json.Reader
import RecordSchema.Log
import RecordSchema.Main
import RecordSchema.Number.Double
import RecordSchema.Number.Reader
import RecordSchema.Number.Shortest
import RecordSchema.Pattern.Delimited
import RecordSchema.Pattern.Matcher
import RecordSchema.Pattern.Parser
import RecordSchema.Pattern.Search
import RecordSchema.Pattern.Syntax
import RecordSchema.Proofs.Calendar.Date
import RecordSchema.Proofs.Calendar.Layouts
import RecordSchema.Proofs.Calendar.Matching
import RecordSchema.Proofs.Check.Blanks
import RecordSchema.Proofs.Check.Bounds
import RecordSchema.Proofs.Check.Composition
import RecordSchema.Proofs.Check.Contents
import RecordSchema.Proofs.Check.Failures
import RecordSchema.Proofs.Check.Filling
import RecordSchema.Proofs.Check.Findings
import RecordSchema.Proofs.Check.Locality
import RecordSchema.Proofs.Check.Obstacles
import RecordSchema.Proofs.Check.Outcomes
import RecordSchema.Proofs.Check.Phrasing
import RecordSchema.Proofs.Check.Presence
import RecordSchema.Proofs.Check.Reordering
import RecordSchema.Proofs.Check.Restriction
import RecordSchema.Proofs.Check.RuleNames
import RecordSchema.Proofs.Check.Stopping
import RecordSchema.Proofs.Check.Strictness
import RecordSchema.Proofs.Check.Templates
import RecordSchema.Proofs.Check.TextSizes
import RecordSchema.Proofs.Check.Tightening
import RecordSchema.Proofs.Check.Totality
import RecordSchema.Proofs.Check.UnknownRules
import RecordSchema.Proofs.Check.Verdicts
import RecordSchema.Proofs.Check.Wording
import RecordSchema.Proofs.Collection.Composition
import RecordSchema.Proofs.Collection.Reading
import RecordSchema.Proofs.CommandLine.Arguments
import RecordSchema.Proofs.CommandLine.Endings
import RecordSchema.Proofs.CommandLine.Loading
import RecordSchema.Proofs.Fields
import RecordSchema.Proofs.Format.Email
import RecordSchema.Proofs.Json.Plain
import RecordSchema.Proofs.Name
import RecordSchema.Proofs.Number.Notation
import RecordSchema.Proofs.Number.Order
import RecordSchema.Proofs.Number.Reading
import RecordSchema.Proofs.Number.Rounding
import RecordSchema.Proofs.Outcome
import RecordSchema.Proofs.Pattern.Delimited
import RecordSchema.Proofs.Property.Acceptance
import RecordSchema.Proofs.Property.Bounds
import RecordSchema.Proofs.Property.Closures
import RecordSchema.Proofs.Property.Entries
import RecordSchema.Proofs.Property.History
import RecordSchema.Proofs.Property.Narrowing
import RecordSchema.Proofs.Property.Nesting
import RecordSchema.Proofs.Property.Nullable
import RecordSchema.Proofs.Property.Origin
import RecordSchema.Proofs.Property.Patterns
import RecordSchema.Proofs.Property.Plain
import RecordSchema.Proofs.Property.Reading
import RecordSchema.Proofs.Property.RoundTrip
import RecordSchema.Proofs.Property.Soundness
import RecordSchema.Proofs.Property.Tokens
import RecordSchema.Proofs.Property.Type
import RecordSchema.Proofs.Report.Messages
import RecordSchema.Proofs.Report.Monoid
import RecordSchema.Proofs.Report.Walk
import RecordSchema.Proofs.Rule.Comparison
import RecordSchema.Proofs.Rule.Compilation
import RecordSchema.Proofs.Rule.Parsing
import RecordSchema.Proofs.Rule.Resolution
import RecordSchema.Proofs.Rule.RoundTrip
import RecordSchema.Proofs.Schema.Carriers
import RecordSchema.Proofs.Schema.Dependence
import RecordSchema.Proofs.Schema.Loading
import RecordSchema.Proofs.Schema.NormalForm
import RecordSchema.Proofs.Schema.Order
import RecordSchema.Proofs.Schema.Patterns
import RecordSchema.Proofs.Schema.Registration
import RecordSchema.Proofs.Schema.Required
import RecordSchema.Proofs.Schema.RoundTrip
import RecordSchema.Proofs.Schema.Rows
import RecordSchema.Proofs.Schema.Siblings
import RecordSchema.Proofs.Text.Replacement
import RecordSchema.Proofs.Value
import RecordSchema.Proofs.Value.Equality
import RecordSchema.Proofs.Value.Order
import RecordSchema.Proofs.Workspace.Action
import RecordSchema.Proofs.Workspace.Calls
import RecordSchema.Proofs.Workspace.Consistency
import RecordSchema.Proofs.Workspace.Merging
import RecordSchema.Proofs.Workspace.Mutation
import RecordSchema.Proofs.Workspace.Planting
import RecordSchema.Proofs.Workspace.Renaming
import RecordSchema.Proofs.Workspace.Trees
import RecordSchema.Property.Acceptance
import RecordSchema.Property.Basic
import RecordSchema.Property.Facets
import RecordSchema.Property.Node
import RecordSchema.Property.Preset
import RecordSchema.Property.Reader
import RecordSchema.Property.Type
import RecordSchema.Report
import RecordSchema.Report.Merging
import RecordSchema.Rule.Comparison
import RecordSchema.Rule.Condition
import RecordSchema.Rule.Conditional
import RecordSchema.Rule.Table
import RecordSchema.Rule.Token
import RecordSchema.Schema.Basic
import RecordSchema.Schema.Shape
import RecordSchema.Settings
import RecordSchema.Text.Blank
import RecordSchema.Text.Case
import RecordSchema.Text.Letters
import RecordSchema.Text.Pieces
import RecordSchema.Text.Printable
import RecordSchema.Text.Quoted
import RecordSchema.Value.Basic
import RecordSchema.Value.Conversion
import RecordSchema.Value.Emptiness
import RecordSchema.Value.Equality
import RecordSchema.Value.Printer
import RecordSchema.Value.Weight
import RecordSchema.Workspace.Basic
import RecordSchema.Workspace.Collections
import RecordSchema.Workspace.Schemas
