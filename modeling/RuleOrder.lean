import RuleOrder.Api.Envelope
import RuleOrder.Api.Http
import RuleOrder.Api.Memory
import RuleOrder.Api.Url
import RuleOrder.Auth.Token
import RuleOrder.Cache.DbFile
import RuleOrder.Cache.Order
import RuleOrder.Config.File
import RuleOrder.Config.Panel
import RuleOrder.Failure
import RuleOrder.Files.Tree
import RuleOrder.Forward
import RuleOrder.Gesture.Drag
import RuleOrder.Json.Convert
import RuleOrder.Json.Decode
import RuleOrder.Json.Error
import RuleOrder.Json.Reader
import RuleOrder.Json.Shape
import RuleOrder.Json.Value
import RuleOrder.Log.Logger
import RuleOrder.Log.Record
import RuleOrder.Log.Writer
import RuleOrder.Number.Binary64
import RuleOrder.Number.Shortest
import RuleOrder.Order.Move
import RuleOrder.Order.Reconciler
import RuleOrder.Order.Reindex
import RuleOrder.Order.Seed
import RuleOrder.Order.Update
import RuleOrder.Proofs.Api.Backend
import RuleOrder.Proofs.Api.Push
import RuleOrder.Proofs.Api.Wire
import RuleOrder.Proofs.Auth.Owner
import RuleOrder.Proofs.Files.Effects
import RuleOrder.Proofs.Files.Walk
import RuleOrder.Proofs.Gesture.Tracker
import RuleOrder.Proofs.Log.Names
import RuleOrder.Proofs.Log.Rotation
import RuleOrder.Proofs.Log.Ring
import RuleOrder.Proofs.Order.Move
import RuleOrder.Proofs.Order.Merge
import RuleOrder.Proofs.Order.Positions
import RuleOrder.Proofs.Order.Reconciler
import RuleOrder.Proofs.Order.Reseed
import RuleOrder.Proofs.Order.Seed
import RuleOrder.Proofs.Order.ServerSort
import RuleOrder.Proofs.Order.View
import RuleOrder.Proofs.Session.Coherence
import RuleOrder.Proofs.Session.Drag
import RuleOrder.Proofs.Session.Export
import RuleOrder.Proofs.Session.Steps
import RuleOrder.Proofs.Session.Sync
import RuleOrder.Proofs.Store.Schema
import RuleOrder.Proofs.Text.Base64
import RuleOrder.Proofs.Text.Utf8
import RuleOrder.Proofs.Store.Run
import RuleOrder.Proofs.Json.Ids
import RuleOrder.Proofs.Json.Object
import RuleOrder.Proofs.Json.RoundTrip
import RuleOrder.Proofs.Json.Laws
import RuleOrder.Proofs.Json.Scalars
import RuleOrder.Proofs.Cache.Table
import RuleOrder.Proofs.Cache.Replay
import RuleOrder.Request.Backend
import RuleOrder.Request.Basic
import RuleOrder.Request.Cache
import RuleOrder.Request.Dispatch
import RuleOrder.Request.Files
import RuleOrder.Request.Http
import RuleOrder.Request.Logging
import RuleOrder.Request.Ordering
import RuleOrder.Request.Panel
import RuleOrder.Request.Records
import RuleOrder.Request.Session
import RuleOrder.Request.View
import RuleOrder.Session.Settings
import RuleOrder.Session.State
import RuleOrder.Store.Aggregate
import RuleOrder.Store.Calendar
import RuleOrder.Store.Catalog
import RuleOrder.Store.Check
import RuleOrder.Store.Connection
import RuleOrder.Store.Database
import RuleOrder.Store.Eval
import RuleOrder.Store.Exec
import RuleOrder.Store.Format
import RuleOrder.Store.Functions
import RuleOrder.Store.JsonFunctions
import RuleOrder.Store.JsonText
import RuleOrder.Store.Jsonb
import RuleOrder.Store.Lexer
import RuleOrder.Store.Number
import RuleOrder.Store.Parser.Base
import RuleOrder.Store.Parser.Query
import RuleOrder.Store.Parser.Statement
import RuleOrder.Store.SchemaText
import RuleOrder.Store.Scope
import RuleOrder.Store.Syntax
import RuleOrder.Store.Value
import RuleOrder.Store.ValueRows
import RuleOrder.Store.Write
import RuleOrder.Text.Base64
import RuleOrder.Text.Blank
import RuleOrder.Text.Lower
import RuleOrder.Text.Printable
import RuleOrder.Text.Quoted
import RuleOrder.Text.Ranges
import RuleOrder.Text.Utf8
import RuleOrder.View.Export
import RuleOrder.View.Filter
