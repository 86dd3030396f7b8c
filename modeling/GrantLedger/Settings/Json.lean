import GrantLedger.Settings.Basic
import GrantLedger.Settings.Reading

/-!
# Settings as JSON

Every group of settings is an object with a member per setting. Reading leaves defaults for settings
that are not given and passes over members that are no settings.
-/

namespace GrantLedger.Settings

open Reading (option? orDefault)

/-- One more than the largest number of 32 bits. -/
def bound32 : Nat := 4_294_967_296

/-- One more than the largest number of 64 bits. -/
def bound64 : Nat := 18_446_744_073_709_551_616

/-- An optional number. -/
def optionalNat (n : Option Nat) : Json := n.elim .null .ofNat

/-! ## 1. Stores -/

/-- How queries run, as JSON. -/
def Query.toJson (q : Query) : Json := .object [("page_size", .ofNat q.pageSize)]

/-- Reads how queries run. -/
def Query.ofJson? (reading : Reading) (j : Json) : Option Query := do
  let get ← reading.fields? ["page_size"] j
  let pageSize ← orDefault (get "page_size") ({} : Query).pageSize (reading.nat? bound64)
  return { pageSize }

/-- A span of time, as JSON. -/
def spanJson (s : Span) : Json := .str s.toText

/-- Reads a span of time. -/
def spanOfJson? (reading : Reading) (j : Json) : Option Span := (reading.text? j).bind Span.ofText?

/-- How old entities are removed, as JSON. -/
def Prune.toJson (p : Prune) : Json :=
  .object [
    ("batch_size", .ofNat p.batchSize),
    ("batch_delay", spanJson p.batchDelay),
    ("interval", spanJson p.interval),
    ("token_retention", spanJson p.tokenRetention),
    ("authorization_retention", spanJson p.authorizationRetention),
    ("disable_token_pruning", .bool p.disableTokenPruning),
    ("disable_authorization_pruning", .bool p.disableAuthorizationPruning)]

/-- Reads how old entities are removed. -/
def Prune.ofJson? (reading : Reading) (j : Json) : Option Prune := do
  let get ← reading.fields? ["batch_size", "batch_delay", "interval", "token_retention",
    "authorization_retention", "disable_token_pruning", "disable_authorization_pruning"] j
  let default : Prune := {}
  let span (name : String) (value : Span) := orDefault (get name) value (spanOfJson? reading)
  let flag (name : String) (value : Bool) := orDefault (get name) value reading.bool?
  let batchSize ← orDefault (get "batch_size") default.batchSize (reading.nat? bound64)
  let batchDelay ← span "batch_delay" default.batchDelay
  let interval ← span "interval" default.interval
  let tokenRetention ← span "token_retention" default.tokenRetention
  let authorizationRetention ← span "authorization_retention" default.authorizationRetention
  let disableTokenPruning ← flag "disable_token_pruning" default.disableTokenPruning
  let disableAuthorizationPruning ←
    flag "disable_authorization_pruning" default.disableAuthorizationPruning
  return { batchSize, batchDelay, interval, tokenRetention, authorizationRetention,
           disableTokenPruning, disableAuthorizationPruning }

/-- The members of the settings of the stores. -/
def Store.members (s : Store) : List (String × Json) := [
  ("context", .ofText? s.context),
  ("delete_policy", .str s.deletePolicy.name),
  ("query", s.query.toJson),
  ("prune", s.prune.toJson)]

/-- How the stores work, as JSON. -/
def Store.toJson (s : Store) : Json := .object s.members

/-- Reads how the stores work. -/
def Store.ofJson? (reading : Reading) (j : Json) : Option Store := do
  let get ← reading.fields? ["context", "delete_policy", "query", "prune"] j
  let context ← orDefault (get "context") none (option? reading.text?)
  let deletePolicy ← orDefault (get "delete_policy") .restrict fun j =>
    (reading.name? j).bind DeletePolicy.ofName?
  let query ← orDefault (get "query") {} (Query.ofJson? reading)
  let prune ← orDefault (get "prune") {} (Prune.ofJson? reading)
  return { context, deletePolicy, query, prune }

/-! ## 2. Database -/

/-- How the database is reached, as JSON. -/
def Database.toJson (d : Database) : Json :=
  .object [
    ("url", .str d.url),
    ("pool_size", .ofNat d.poolSize),
    ("min_connections", optionalNat d.minConnections),
    ("connect_timeout_ms", .ofNat d.connectTimeoutMillis),
    ("idle_timeout_ms", optionalNat d.idleTimeoutMillis),
    ("key_type", .str d.keyKind.name),
    ("apply_schema", .bool d.applySchema)]

/-- Reads how the database is reached. -/
def Database.ofJson? (reading : Reading) (j : Json) : Option Database := do
  let get ← reading.fields? ["url", "pool_size", "min_connections", "connect_timeout_ms",
    "idle_timeout_ms", "key_type", "apply_schema"] j
  let default : Database := {}
  let url ← orDefault (get "url") default.url reading.text?
  let poolSize ← orDefault (get "pool_size") default.poolSize (reading.nat? bound32)
  let minConnections ← orDefault (get "min_connections") default.minConnections
    (option? (reading.nat? bound32))
  let connectTimeoutMillis ← orDefault (get "connect_timeout_ms") default.connectTimeoutMillis
    (reading.nat? bound64)
  let idleTimeoutMillis ← orDefault (get "idle_timeout_ms") default.idleTimeoutMillis
    (option? (reading.nat? bound64))
  let keyKind ← orDefault (get "key_type") default.keyKind fun j =>
    (reading.name? j).bind KeyKind.ofName?
  let applySchema ← orDefault (get "apply_schema") default.applySchema reading.bool?
  return { url, poolSize, minConnections, connectTimeoutMillis, idleTimeoutMillis, keyKind,
           applySchema }

/-! ## 3. Command line -/

/-- What the command line reads, as JSON. -/
def Tool.toJson (t : Tool) : Json :=
  .object (t.store.members ++ [("log_level", .str t.logLevel), ("postgres", t.database.toJson)])

/-- Reads what the command line reads. The settings of the stores stand beside the others and are
not converted. -/
def Tool.ofJson? (reading : Reading) (j : Json) : Option Tool :=
  match j with
  | .obj _ => do
    let logLevel ← orDefault (j.member? "log_level") ({} : Tool).logLevel reading.text?
    let database ← orDefault (j.member? "postgres") {} (Database.ofJson? reading)
    let store ← Store.ofJson? .inlined j
    return { store, logLevel, database }
  | _ => none

end GrantLedger.Settings
