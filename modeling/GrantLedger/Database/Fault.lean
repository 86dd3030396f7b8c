/-!
# Faults of the database

What a database, or the way to it, can answer in place of a result. A refused statement may carry a
code of five characters; two of the codes say that a constraint is violated.
-/

namespace GrantLedger.Database

/-- A fault of the database. -/
inductive Fault where
  /-- The database refused a statement, with a code if it gave one. -/
  | refused (code : Option String) (message : String)
  /-- No connection could be opened. -/
  | unreachable
  /-- The connections are closed. -/
  | closed
  /-- The tables could not be created. -/
  | definition (message : String)
  deriving DecidableEq, Repr

/-- The code of a row that repeats the value of a unique index. -/
def uniqueViolation : String := "23505"

/-- The code of a reference to a row that does not exist. -/
def foreignKeyViolation : String := "23503"

namespace Fault

/-- Whether the database refused a statement with a code. -/
def hasCode (code : String) : Fault → Bool
  | .refused given _ => given == some code
  | _ => false

/-- Whether a row repeats the value of a unique index. -/
def isUniqueViolation : Fault → Bool := hasCode uniqueViolation

/-- Whether a row refers to one that does not exist. -/
def isForeignKeyViolation : Fault → Bool := hasCode foreignKeyViolation

/-- The fault in words. -/
def message : Fault → String
  | .refused _ message => "Database error: error returned from database: " ++ message
  | .unreachable => "Database error: no connection could be opened"
  | .closed => "Database error: attempted to acquire a connection on a closed pool"
  | .definition message => "Schema error: " ++ message

end Fault

end GrantLedger.Database
