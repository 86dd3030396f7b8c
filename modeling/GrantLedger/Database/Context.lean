import GrantLedger.Error
import GrantLedger.Settings.Basic

/-!
# A context over a database

A context in a database is opened by its settings, and can be closed. This library writes statements
but has no way to send them, so a context can never be reached: opening a session fails with the
fault that a closed context or an unreachable database has.
-/

namespace GrantLedger.Database

/-- The name of the contexts over a database. -/
def contextName : String := "postgres"

/-- A context over a database. -/
structure Context where
  /-- The form of keys and references. -/
  keyKind : KeyKind
  /-- Whether the connections are closed. -/
  isClosed : Bool := false
  deriving DecidableEq, Repr

/-- Opens a context. -/
def openContext (_ : Settings.Database) : Except StoreError Context :=
  .error (.backend (.database .unreachable))

namespace Context

/-- Closes the connections. -/
def close (c : Context) : Context := { c with isClosed := true }

/-- What a context answers in place of a session. -/
def fault (c : Context) : Fault := if c.isClosed then .closed else .unreachable

/-- Opens a session, of which there are none. -/
def openSession (c : Context) : Except StoreError Empty := .error (.backend (.database c.fault))

/-- Creates missing tables and indexes, which takes a session. -/
def applyDefinitions (c : Context) : Except StoreError Unit := do nomatch ← c.openSession

end Context

end GrantLedger.Database
