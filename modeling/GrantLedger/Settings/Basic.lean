import GrantLedger.Key
import GrantLedger.Schema
import GrantLedger.Settings.Fault
import GrantLedger.Span

/-!
# Settings

What can be set about the stores, the database and the command line, with defaults. Each group of
settings has a `check` that reports the first fault it finds.
-/

namespace GrantLedger.Settings

/-- Refuses settings with a fault. -/
def refuseIf (bad : Bool) (fault : Fault) : Except Fault Unit :=
  if bad then .error fault else .ok ()

/-- How queries run. -/
structure Query where
  /-- How many rows a page of a streamed query holds. -/
  pageSize : Nat := 100
  deriving DecidableEq, Inhabited

/-- How old entities are removed. -/
structure Prune where
  /-- How many rows a batch removes at most. -/
  batchSize : Nat := 1000
  /-- The pause between two batches. -/
  batchDelay : Span := ⟨0⟩
  /-- The time between two passes of the periodic job. -/
  interval : Span := .ofSeconds 3600
  /-- How long tokens are kept at least. -/
  tokenRetention : Span := .ofSeconds 1209600
  /-- How long authorizations are kept at least. -/
  authorizationRetention : Span := .ofSeconds 1209600
  /-- Whether the job passes over tokens. -/
  disableTokenPruning : Bool := false
  /-- Whether the job passes over authorizations. -/
  disableAuthorizationPruning : Bool := false
  deriving DecidableEq, Inhabited

/-- How the stores work. -/
structure Store where
  /-- The name of the backing context; without one no operation succeeds. -/
  context : Option String := none
  deletePolicy : DeletePolicy := .restrict
  query : Query := {}
  prune : Prune := {}
  deriving DecidableEq, Inhabited

/-- How the database is reached. -/
structure Database where
  url : String := "postgres://localhost/authstore"
  /-- How many connections there are at most. -/
  poolSize : Nat := 10
  /-- How many connections are kept at least. -/
  minConnections : Option Nat := none
  connectTimeoutMillis : Nat := 5000
  idleTimeoutMillis : Option Nat := some 300000
  /-- The form of keys and references. -/
  keyKind : KeyKind := .text
  /-- Whether missing tables are created on connecting. -/
  applySchema : Bool := false
  deriving DecidableEq, Inhabited

/-- What the command line reads: the settings of the stores and of the database. -/
structure Tool where
  store : Store := {}
  logLevel : String := "info"
  database : Database := {}
  deriving DecidableEq, Inhabited

/-! ## Checks -/

/-- Checks how old entities are removed. -/
def Prune.check (p : Prune) : Except Fault Unit := do
  refuseIf (p.batchSize == 0) (.notPositive "prune.batch_size")
  refuseIf (p.interval.nanos == 0) (.notPositive "prune.interval")

/-- Checks how the stores work. -/
def Store.check (s : Store) : Except Fault Unit := do
  refuseIf (s.context.any Text.Blank.isBlankText) (.blank "context")
  refuseIf (s.query.pageSize == 0) (.notPositive "query.page_size")
  s.prune.check

/-- Whether an address of a database has a scheme that is known. -/
def hasKnownScheme (url : String) : Bool :=
  "postgres://".toList.isPrefixOf url.toList || "postgresql://".toList.isPrefixOf url.toList

/-- Checks how the database is reached. -/
def Database.check (d : Database) : Except Fault Unit := do
  refuseIf (Text.Blank.isBlankText d.url) (.missing "postgres.url")
  refuseIf (!hasKnownScheme d.url) .wrongScheme
  refuseIf (d.poolSize == 0) (.notPositive "postgres.pool_size")
  refuseIf (d.minConnections.any (d.poolSize < ·)) .pooledBelowMinimum

/-- Checks what the command line reads. -/
def Tool.check (t : Tool) : Except Fault Unit := do
  refuseIf (Text.Blank.isBlankText t.logLevel) (.blank "log_level")
  t.store.check
  t.database.check

end GrantLedger.Settings
