/-!
# What can be wrong with settings
-/

namespace GrantLedger.Settings

/-- A reason why settings are refused. -/
inductive Fault where
  /-- A setting that has to name something is blank. -/
  | blank (setting : String)
  /-- A setting that counts something is zero. -/
  | notPositive (setting : String)
  /-- The address of the database has another scheme. -/
  | wrongScheme
  /-- More connections are to be kept than the pool may hold. -/
  | pooledBelowMinimum
  /-- A setting without a default is not given. -/
  | missing (setting : String)
  /-- The file of settings does not exist. -/
  | missingFile (path : String)
  /-- A source of settings, or a value in it, cannot be read. -/
  | unreadable
  deriving DecidableEq, Repr

/-- The three classes of faults. -/
inductive Fault.Class where
  | invalidValue
  | missing
  | load
  deriving DecidableEq, Repr

/-- The class of a fault. -/
def Fault.kind : Fault → Fault.Class
  | .blank _ | .notPositive _ | .wrongScheme | .pooledBelowMinimum => .invalidValue
  | .missing _ | .missingFile _ => .missing
  | .unreadable => .load

/-- The fault in words. -/
def Fault.message : Fault → String
  | .blank setting => "Invalid configuration value: " ++ setting ++ " cannot be empty"
  | .notPositive setting => "Invalid configuration value: " ++ setting ++ " must be > 0"
  | .wrongScheme =>
    "Invalid configuration value: postgres.url must use the postgres:// scheme"
  | .pooledBelowMinimum =>
    "Invalid configuration value: postgres.min_connections cannot exceed pool_size"
  | .missing setting => "Missing required configuration: " ++ setting
  | .missingFile path => "Missing required configuration: configuration file " ++ path
  | .unreadable => "Failed to load configuration"

end GrantLedger.Settings
