import GrantLedger.Cell
import GrantLedger.Codec
import GrantLedger.CommandLine.Arguments
import GrantLedger.CommandLine.Help
import GrantLedger.CommandLine.Options
import GrantLedger.CommandLine.Run
import GrantLedger.Database.Address
import GrantLedger.Database.Context
import GrantLedger.Database.Fault
import GrantLedger.Decimal.Plain
import GrantLedger.Decimal.Shortest
import GrantLedger.EntityKey
import GrantLedger.Error
import GrantLedger.Json.Basic
import GrantLedger.Json.Read
import GrantLedger.Json.Render
import GrantLedger.Key
import GrantLedger.Main
import GrantLedger.Model.Basic
import GrantLedger.Model.Extended
import GrantLedger.Model.ModelType
import GrantLedger.Numeral
import GrantLedger.OrdMap
import GrantLedger.Proofs.ClauseReading
import GrantLedger.Proofs.CutSweeps
import GrantLedger.Proofs.ElementSearch
import GrantLedger.Proofs.EncodedColumns
import GrantLedger.Proofs.ExtendedModels
import GrantLedger.Proofs.FailedWrites
import GrantLedger.Proofs.FieldSearch
import GrantLedger.Proofs.Finding
import GrantLedger.Proofs.Identities
import GrantLedger.Proofs.JsonNesting
import GrantLedger.Proofs.JsonParts
import GrantLedger.Proofs.JsonText
import GrantLedger.Proofs.KeyFilters
import GrantLedger.Proofs.KeyTexts
import GrantLedger.Proofs.Listing
import GrantLedger.Proofs.Masking
import GrantLedger.Proofs.Operations
import GrantLedger.Proofs.Ordering
import GrantLedger.Proofs.Paging
import GrantLedger.Proofs.Passes
import GrantLedger.Proofs.Patterns
import GrantLedger.Proofs.Placeholders
import GrantLedger.Proofs.PropertyBags
import GrantLedger.Proofs.Publication
import GrantLedger.Proofs.QuotedNames
import GrantLedger.Proofs.ReadYourWrites
import GrantLedger.Proofs.RecordRows
import GrantLedger.Proofs.References
import GrantLedger.Proofs.ResolverRuns
import GrantLedger.Proofs.RevocationSteps
import GrantLedger.Proofs.Revoking
import GrantLedger.Proofs.SequentialRevocation
import GrantLedger.Proofs.SqlConditions
import GrantLedger.Proofs.SqlMeaning
import GrantLedger.Proofs.SqlPruning
import GrantLedger.Proofs.SqlQueries
import GrantLedger.Proofs.SqlReader
import GrantLedger.Proofs.SqlReading
import GrantLedger.Proofs.SqlRemoval
import GrantLedger.Proofs.SqlTexts
import GrantLedger.Proofs.SqlWriting
import GrantLedger.Proofs.StateRounds
import GrantLedger.Proofs.StoreRuns
import GrantLedger.Proofs.StrictOrder
import GrantLedger.Proofs.Sweeping
import GrantLedger.Proofs.TokenChain
import GrantLedger.Proofs.TypedRows
import GrantLedger.Proofs.WellFormed
import GrantLedger.Pruning.Pass
import GrantLedger.Pruning.Sweep
import GrantLedger.Query.Predicate
import GrantLedger.Query.RowQuery
import GrantLedger.Record.Application
import GrantLedger.Record.Authorization
import GrantLedger.Record.Basic
import GrantLedger.Record.Json
import GrantLedger.Record.Scope
import GrantLedger.Record.Token
import GrantLedger.Row
import GrantLedger.Schema
import GrantLedger.Services.Basic
import GrantLedger.Services.Binding
import GrantLedger.Services.Resolver
import GrantLedger.Settings.Basic
import GrantLedger.Settings.Fault
import GrantLedger.Settings.Json
import GrantLedger.Settings.Path
import GrantLedger.Settings.Reading
import GrantLedger.Settings.Source
import GrantLedger.Span
import GrantLedger.Sql.Command
import GrantLedger.Sql.Definition
import GrantLedger.Sql.Param
import GrantLedger.Sql.Statement
import GrantLedger.Sql.Token
import GrantLedger.Store.Basic
import GrantLedger.Store.EncodedField
import GrantLedger.Store.Finders
import GrantLedger.Store.Paging
import GrantLedger.Store.Request
import GrantLedger.Store.Revocation
import GrantLedger.Tables
import GrantLedger.Text.Characters
import GrantLedger.Timestamp
import GrantLedger.Toml.Document
import GrantLedger.Toml.Scalar
import GrantLedger.Toml.Text
import GrantLedger.Toml.Tree
import GrantLedger.Uuid
import GrantLedger.Wire.Values
