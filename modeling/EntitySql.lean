import EntitySql.Catalog
import EntitySql.Declaration.Basic
import EntitySql.Declaration.Mapping
import EntitySql.Dialect
import EntitySql.Engine
import EntitySql.Entity.Binding
import EntitySql.Entity.FieldType
import EntitySql.Entity.Record
import EntitySql.Failure
import EntitySql.Fragment
import EntitySql.Json.Number
import EntitySql.Json.Scalar
import EntitySql.Json.Text
import EntitySql.Naming
import EntitySql.Number.Binary
import EntitySql.Number.Numeral
import EntitySql.Number.Power
import EntitySql.Number.Shortest
import EntitySql.Placeholder
import EntitySql.Presence
import EntitySql.Proofs.Acceptance
import EntitySql.Proofs.Agreement
import EntitySql.Proofs.Alignment
import EntitySql.Proofs.Binding
import EntitySql.Proofs.Declared
import EntitySql.Proofs.Engine
import EntitySql.Proofs.FieldColumns
import EntitySql.Proofs.Having.Expansion
import EntitySql.Proofs.Having.Target
import EntitySql.Proofs.Independence
import EntitySql.Proofs.Json.Number
import EntitySql.Proofs.Json.Scalar
import EntitySql.Proofs.Json.Text
import EntitySql.Proofs.Layout.Basic
import EntitySql.Proofs.Layout.Dialects
import EntitySql.Proofs.Layout.Filling
import EntitySql.Proofs.Layout.Level
import EntitySql.Proofs.Layout.Plain
import EntitySql.Proofs.Layout.Position
import EntitySql.Proofs.Layout.Rendering
import EntitySql.Proofs.Layout.Strays
import EntitySql.Proofs.Layout.Texts
import EntitySql.Proofs.Layout.Tidy
import EntitySql.Proofs.Mappable
import EntitySql.Proofs.Naming.Constant
import EntitySql.Proofs.Naming.NormalForm
import EntitySql.Proofs.Naming.Spelling
import EntitySql.Proofs.Number.Exact
import EntitySql.Proofs.Number.Widening
import EntitySql.Proofs.Paging
import EntitySql.Proofs.Placeholder.Joined
import EntitySql.Proofs.Placeholder.Numbering
import EntitySql.Proofs.Placeholder.Regions
import EntitySql.Proofs.Placeholder.Resumed
import EntitySql.Proofs.Presence
import EntitySql.Proofs.Projection
import EntitySql.Proofs.Query.Alike
import EntitySql.Proofs.Query.Chain
import EntitySql.Proofs.Query.Level
import EntitySql.Proofs.Query.WellFormed
import EntitySql.Proofs.ReadBack
import EntitySql.Proofs.Registration
import EntitySql.Proofs.RoundTrip
import EntitySql.Proofs.RowGrid
import EntitySql.Proofs.SavedColumns
import EntitySql.Proofs.Schema.LookUp
import EntitySql.Proofs.Schema.Tags
import EntitySql.Proofs.Session.Guard
import EntitySql.Proofs.Session.Refusal
import EntitySql.Proofs.Session.Rows
import EntitySql.Proofs.Session.Summary
import EntitySql.Proofs.Session.Unregistered
import EntitySql.Proofs.Statement.Command
import EntitySql.Proofs.Statement.Condition
import EntitySql.Proofs.Statement.Filter
import EntitySql.Proofs.Statement.Name
import EntitySql.Proofs.Statement.Outcome
import EntitySql.Proofs.Statement.Subquery
import EntitySql.Proofs.Substitution
import EntitySql.Proofs.Time.Calendar
import EntitySql.Proofs.Time.Reader
import EntitySql.Proofs.Uuid
import EntitySql.Query.Basic
import EntitySql.Query.Description
import EntitySql.Query.Projection
import EntitySql.Query.Step
import EntitySql.Schema.Basic
import EntitySql.Schema.Tags
import EntitySql.Session.Builder
import EntitySql.Session.Reply
import EntitySql.Session.Request
import EntitySql.Session.Terminal
import EntitySql.Statement.Basic
import EntitySql.Statement.Condition
import EntitySql.Statement.Select
import EntitySql.Statement.Write
import EntitySql.Text.Blank
import EntitySql.Text.Hex
import EntitySql.Text.Identifier
import EntitySql.Text.Identifier.Table
import EntitySql.Text.Letter
import EntitySql.Text.Letter.Table
import EntitySql.Text.Printable
import EntitySql.Text.Printable.Table
import EntitySql.Text.Quoted
import EntitySql.Text.Span
import EntitySql.Time.Date
import EntitySql.Time.Reader
import EntitySql.Time.Timestamp
import EntitySql.Uuid
import EntitySql.Value.Basic
import EntitySql.Value.Scalar
