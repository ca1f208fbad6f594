import EntityGraph.Config
import EntityGraph.Database.Aggregate
import EntityGraph.Database.Alter
import EntityGraph.Database.BindExpr
import EntityGraph.Database.BindQuery
import EntityGraph.Database.Bound
import EntityGraph.Database.Bytes
import EntityGraph.Database.Clock
import EntityGraph.Database.Connection
import EntityGraph.Database.Datum
import EntityGraph.Database.Define
import EntityGraph.Database.Engine
import EntityGraph.Database.Evaluate
import EntityGraph.Database.Execute
import EntityGraph.Database.Fault
import EntityGraph.Database.ForeignKeys
import EntityGraph.Database.Grammar.Query
import EntityGraph.Database.Grammar.Reader
import EntityGraph.Database.Grammar.Statement
import EntityGraph.Database.Link
import EntityGraph.Database.Modify
import EntityGraph.Database.Numeral
import EntityGraph.Database.Operators
import EntityGraph.Database.Printf
import EntityGraph.Database.Rename
import EntityGraph.Database.Scalar
import EntityGraph.Database.Schema
import EntityGraph.Database.Scope
import EntityGraph.Database.Syntax
import EntityGraph.Database.Token
import EntityGraph.Database.Write
import EntityGraph.Error
import EntityGraph.Graph.Arena
import EntityGraph.Graph.Instance
import EntityGraph.Graph.Materialize
import EntityGraph.Graph.Tree
import EntityGraph.Json.Basic
import EntityGraph.Json.Read
import EntityGraph.Json.Typed
import EntityGraph.Json.Write
import EntityGraph.Number.Arithmetic
import EntityGraph.Number.Binary64
import EntityGraph.Number.Power
import EntityGraph.Number.Shortest
import EntityGraph.Proofs.Cache.Isolation
import EntityGraph.Proofs.Cache.Publish
import EntityGraph.Proofs.Cache.Recency
import EntityGraph.Proofs.Cache.Rollback
import EntityGraph.Proofs.Database.Storage
import EntityGraph.Proofs.Database.Text
import EntityGraph.Proofs.Graph.Fields
import EntityGraph.Proofs.Graph.Frame
import EntityGraph.Proofs.Graph.Records
import EntityGraph.Proofs.Graph.Relations
import EntityGraph.Proofs.Graph.Scan
import EntityGraph.Proofs.Graph.Store
import EntityGraph.Proofs.Number.Rounding
import EntityGraph.Proofs.Query.Binding
import EntityGraph.Proofs.Query.Builders
import EntityGraph.Proofs.Query.Names
import EntityGraph.Proofs.Query.Paging
import EntityGraph.Proofs.Query.Parameters
import EntityGraph.Proofs.Query.Reuse
import EntityGraph.Proofs.Query.Values
import EntityGraph.Proofs.Query.Where
import EntityGraph.Proofs.Render.Acceptance
import EntityGraph.Proofs.Render.Grammar
import EntityGraph.Proofs.Render.Grouping
import EntityGraph.Proofs.Render.Placeholders
import EntityGraph.Proofs.Render.Precedence
import EntityGraph.Proofs.Render.Reading
import EntityGraph.Proofs.Save.Divergence
import EntityGraph.Proofs.Save.Relocation
import EntityGraph.Proofs.Save.Resume
import EntityGraph.Proofs.Save.Steady
import EntityGraph.Proofs.Schema.Slots
import EntityGraph.Proofs.Schema.WellFormed
import EntityGraph.Proofs.Session.Atomicity
import EntityGraph.Proofs.Session.Failure
import EntityGraph.Proofs.Session.Identity
import EntityGraph.Proofs.Session.Run
import EntityGraph.Proofs.Session.Statements
import EntityGraph.Query.Cache
import EntityGraph.Query.Compile
import EntityGraph.Query.Compiled
import EntityGraph.Query.Filter
import EntityGraph.Query.Plan
import EntityGraph.Query.Query
import EntityGraph.Query.Render
import EntityGraph.Query.Resolve
import EntityGraph.Row.Mask
import EntityGraph.Row.ModelRow
import EntityGraph.Row.ResultRow
import EntityGraph.Row.Store
import EntityGraph.RowCache
import EntityGraph.Schema.ColumnType
import EntityGraph.Schema.Descriptor
import EntityGraph.Schema.Identifier
import EntityGraph.Schema.Registry
import EntityGraph.Schema.Registry.Build
import EntityGraph.Schema.Structure
import EntityGraph.Service
import EntityGraph.Service.Basic
import EntityGraph.Service.Config
import EntityGraph.Service.Connection
import EntityGraph.Service.Error
import EntityGraph.Service.Graph
import EntityGraph.Service.Query
import EntityGraph.Service.Rows
import EntityGraph.Service.Schema
import EntityGraph.Service.Session
import EntityGraph.Service.Value
import EntityGraph.Session.Basic
import EntityGraph.Session.ChangeSet
import EntityGraph.Session.Load
import EntityGraph.Session.Save
import EntityGraph.Session.Statement
import EntityGraph.Session.Transaction
import EntityGraph.Text.Hidden
import EntityGraph.Text.Quoted
import EntityGraph.Transport
import EntityGraph.Value.Basic
import EntityGraph.Proofs.Query.Joins
