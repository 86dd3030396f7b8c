import GrantLedger.Cell
import GrantLedger.Database.Fault
import GrantLedger.Schema
import GrantLedger.Settings.Fault
import GrantLedger.Span

/-!
# Errors of the stores

An error says what went wrong as a value; `StoreError.message` puts it into words. Absence of an
entity is never an error. An operation that meets an overflow has no answer at all, not even an
error: its `Outcome` is a panic.
-/

namespace GrantLedger

/-- Why a stored or a given value is refused. -/
inductive Malformation where
  /-- A text is no UUID. -/
  | uuidKey (text : String)
  /-- An integer key stands where a UUID is needed. -/
  | integerAsUuid (value : Int64)
  /-- A text is no integer. -/
  | integerKey (text : String) (fault : Numeral.Fault)
  /-- A UUID key stands where an integer is needed. -/
  | uuidAsInteger (value : Uuid)
  /-- An integer does not fit into 32 bits. -/
  | narrowKey (value : Int64) (fault : Numeral.Fault)
  /-- A column holds a value of another type. -/
  | columnType (column expected : String) (found : Cell)
  /-- A query names a column that the table does not have. -/
  | queryColumn (column : String) (kind : EntityKind)
  /-- A statement names a column that the table does not have. -/
  | statementColumn (kind : EntityKind) (column : String)
  /-- A point in time is bound to a text column. -/
  | timestampAsText
  /-- A point in time is bound to a key column. -/
  | timestampAsKey
  /-- Another value is bound to a timestamp column. -/
  | notTimestamp
  /-- An encoded column cannot be decoded. -/
  | encodedColumn (shape text : String)
  /-- An entity without an identifier is to be written. -/
  | missingId (operation : String) (kind : EntityKind)
  /-- A fault in the words of whoever found it. -/
  | stated (message : String)
  deriving DecidableEq

/-- The malformation in words. -/
def Malformation.message : Malformation → String
  | .uuidKey text => "Invalid UUID key '" ++ text ++ "'"
  | .integerAsUuid n => "Integer key " ++ Numeral.write n.toInt ++ " cannot be read as a UUID"
  | .integerKey text fault => "Invalid integer key '" ++ text ++ "': " ++ fault.message
  | .uuidAsInteger u => "UUID key " ++ u.toText ++ " cannot be read as an integer"
  | .narrowKey n fault => "Key " ++ Numeral.write n.toInt ++ " overflows i32: " ++ fault.message
  | .columnType column expected found =>
    "Column '" ++ column ++ "' expected a " ++ expected ++ " value, found " ++ found.describe
  | .queryColumn column kind => "Unknown column '" ++ column ++ "' for " ++ kind.name ++ " queries"
  | .statementColumn kind column => "Unknown column " ++ kind.name ++ "." ++ column
  | .timestampAsText => "Timestamp bound to a text column"
  | .timestampAsKey => "Timestamp bound to a key column"
  | .notTimestamp => "Non-timestamp value bound to a timestamp column"
  | .encodedColumn shape text => "Malformed " ++ shape ++ " column value '" ++ text ++ "'"
  | .missingId operation kind => "Cannot " ++ operation ++ " a " ++ kind.name ++ " without an id"
  | .stated message => message

/-- Why the stores cannot work as they are set up. -/
inductive Misconfiguration where
  /-- No backing context is named. -/
  | unbound
  /-- The named backing context is not registered. -/
  | unknownContext (name : String) (registered : List String)
  /-- The settings are refused. -/
  | settings (fault : Settings.Fault)
  /-- A retention reaches back beyond what a clock can show. -/
  | retention (setting : String) (length : Span)
  /-- A fault in the words of whoever found it. -/
  | stated (message : String)
  deriving DecidableEq

/-- The misconfiguration in words. -/
def Misconfiguration.message : Misconfiguration → String
  | .unbound => "No backing context is bound; set `context` in the store configuration"
  | .unknownContext name registered =>
    "Unknown backing context '" ++ name ++ "' (registered: [" ++
      String.intercalate ", " (registered.map Text.Quoted.quote) ++ "])"
  | .settings fault => fault.message
  | .retention setting length =>
    "prune." ++ setting ++ " of " ++ length.describe ++ " is out of range"
  | .stated message => message

/-- Why a backing context failed. -/
inductive BackendFault where
  /-- Another row has the identifier. -/
  | duplicateKey (id : Key) (table : String)
  /-- Another row has the text in the unique column. -/
  | duplicateValue (value table column : String)
  /-- The database answered with a fault. -/
  | database (fault : Database.Fault)
  /-- A fault in the words of the driver. -/
  | stated (message : String)
  deriving DecidableEq

/-- The fault in words. -/
def BackendFault.message : BackendFault → String
  | .duplicateKey id table => "duplicate key '" ++ id.toText ++ "' in " ++ table
  | .duplicateValue value table column =>
    "duplicate value '" ++ value ++ "' for unique column " ++ table ++ "." ++ column
  | .database fault => fault.message
  | .stated message => message

/-- An error of a store. -/
inductive StoreError where
  /-- No store is known for a type of entities. -/
  | unsupportedEntity (typeName : String) (kind : EntityKind)
  /-- The stores are not set up properly. -/
  | configuration (cause : Misconfiguration)
  /-- The entity was modified or removed since it was read. -/
  | concurrencyConflict (kind : EntityKind) (id : String)
  /-- Other entities still reference the one to be deleted. -/
  | referentialConflict (kind : EntityKind) (id : String) (dependents : Nat)
  /-- A stored or given value is malformed. -/
  | validation (cause : Malformation)
  /-- The backing context failed. -/
  | backend (cause : BackendFault)
  deriving DecidableEq

/-- Coarse classes of errors, for monitoring. -/
inductive ErrorCategory where
  | configuration
  | conflict
  | dataIntegrity
  | backend
  deriving DecidableEq, Repr

/-- The name of a category. -/
def ErrorCategory.name : ErrorCategory → String
  | .configuration => "configuration"
  | .conflict => "conflict"
  | .dataIntegrity => "data_integrity"
  | .backend => "backend"

namespace StoreError

/-- The error in words. -/
def message : StoreError → String
  | .unsupportedEntity typeName kind =>
    "Unsupported entity type '" ++ typeName ++ "' for the " ++ kind.name ++ " store"
  | .configuration cause => "Configuration error: " ++ cause.message
  | .concurrencyConflict kind id =>
    "Concurrency conflict on " ++ kind.name ++ " '" ++ id ++
      "': the entity was modified or removed"
  | .referentialConflict kind id dependents =>
    "Referential conflict on " ++ kind.name ++ " '" ++ id ++ "': " ++
      String.ofList (Numeral.digits dependents) ++ " dependent entities remain"
  | .validation cause => "Validation error: " ++ cause.message
  | .backend cause => "Backend error: " ++ cause.message

/-- The category of an error. -/
def category : StoreError → ErrorCategory
  | .unsupportedEntity .. | .configuration _ => .configuration
  | .concurrencyConflict .. | .referentialConflict .. => .conflict
  | .validation _ => .dataIntegrity
  | .backend _ => .backend

/-- Whether reading again and retrying may succeed. -/
def isRetryable : StoreError → Bool
  | .concurrencyConflict .. => true
  | _ => false

/-- Whether the error is a conflict of either sort. -/
def isConflict : StoreError → Bool
  | .concurrencyConflict .. | .referentialConflict .. => true
  | _ => false

/-- Whether the stores are not set up properly. -/
def isConfiguration : StoreError → Bool
  | .configuration _ => true
  | _ => false

/-- Whether no store is known for a type of entities. -/
def isUnsupportedEntity : StoreError → Bool
  | .unsupportedEntity .. => true
  | _ => false

/-- Whether a value is malformed. -/
def isValidation : StoreError → Bool
  | .validation _ => true
  | _ => false

/-- Whether the backing context failed. -/
def isBackend : StoreError → Bool
  | .backend _ => true
  | _ => false

/-- The fault of the backing context, in its own words. -/
def source? : StoreError → Option String
  | .backend cause => some cause.message
  | _ => none

end StoreError

/-- What becomes of an operation. -/
inductive Outcome (α : Type) where
  | ok (a : α)
  | error (e : StoreError)
  /-- The operation breaks off without an answer, because a sum leaves the range of its integers. -/
  | panic
  deriving DecidableEq

namespace Outcome

variable {α β : Type}

/-- The outcome of an operation that comes to an answer. -/
def answered : Except StoreError α → Outcome α
  | .ok a => .ok a
  | .error e => .error e

/-- The outcome with its answer changed. -/
def map (f : α → β) : Outcome α → Outcome β
  | .ok a => .ok (f a)
  | .error e => .error e
  | .panic => .panic

/-- The answer, if it is no error. -/
def ok? : Outcome α → Option α
  | .ok a => some a
  | .error _ | .panic => none

/-- Whether the operation answers without an error. -/
def isOk (o : Outcome α) : Bool := o.ok?.isSome

@[simp] theorem answered_ok (a : α) : answered (.ok a) = .ok a := rfl

@[simp] theorem answered_error (e : StoreError) :
    answered (.error e : Except StoreError α) = .error e := rfl

theorem answered_ne_panic (x : Except StoreError α) : answered x ≠ .panic := by
  cases x <;> nofun

end Outcome

end GrantLedger
