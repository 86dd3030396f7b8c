import GrantLedger.Key
import GrantLedger.Settings.Source
import GrantLedger.Span

/-!
# Options of the command line

A command line names one of three commands. Options that belong to all commands may stand before the
name of the command as well as after it.
-/

namespace GrantLedger.CommandLine

/-- What the tool is asked to do. -/
inductive Command where
  /-- To print the table definitions for a form of keys, or to apply them. -/
  | schema (apply : Bool) (keyKind : Option KeyKind)
  /-- To run one pruning pass, perhaps with a retention of its own. -/
  | prune (olderThan : Option Span)
  /-- To prune periodically. -/
  | pruner
  deriving DecidableEq

/-- A command with what holds for all commands. -/
structure Options where
  command : Command
  /-- The path of the file of settings. -/
  config : Option String
  /-- The address of the database, in place of the one in the settings. -/
  databaseUrl : Option String
  /-- The log level, in place of the one in the settings. -/
  logLevel : Option String
  deriving DecidableEq

/-- A part of the command line: what stands before the name of the command, or what stands after it.
-/
inductive Level where
  | front
  | schema
  | prune
  | pruner
  deriving DecidableEq, Repr

/-- Why a command line is no command. -/
inductive Refusal where
  /-- Help is asked for: on a part of the command line, or on the command `help` itself. -/
  | displayHelp (topic : Option Level)
  /-- The version is asked for. -/
  | displayVersion
  /-- Nothing is asked for. -/
  | nothingGiven
  /-- There are options but no command. -/
  | missingCommand
  /-- Something stands in place of a command. -/
  | unknownCommand
  | unknownArgument
  /-- An option lacks its value, or has an impossible one. -/
  | impossibleValue
  /-- The value of an option cannot be read. -/
  | unreadableValue
  /-- An option stands twice. -/
  | repeatedOption
  /-- An option that takes no value has one. -/
  | unexpectedValue
  deriving DecidableEq, Repr

/-- The name of a refusal. -/
def Refusal.name : Refusal → String
  | .displayHelp _ => "DisplayHelp"
  | .displayVersion => "DisplayVersion"
  | .nothingGiven => "DisplayHelpOnMissingArgumentOrSubcommand"
  | .missingCommand => "MissingSubcommand"
  | .unknownCommand => "InvalidSubcommand"
  | .unknownArgument => "UnknownArgument"
  | .impossibleValue => "InvalidValue"
  | .unreadableValue => "ValueValidation"
  | .repeatedOption => "ArgumentConflict"
  | .unexpectedValue => "TooManyValues"

/-- An option. -/
inductive Flag where
  | config
  | databaseUrl
  | logLevel
  | apply
  | keyType
  | olderThan
  | help
  | version
  deriving DecidableEq, Repr

/-- The name of an option after two hyphens. -/
def Flag.name : Flag → String
  | .config => "config"
  | .databaseUrl => "database-url"
  | .logLevel => "log-level"
  | .apply => "apply"
  | .keyType => "key-type"
  | .olderThan => "older-than"
  | .help => "help"
  | .version => "version"

/-- The letter of an option after one hyphen. -/
def Flag.letter? : Flag → Option Char
  | .config => some 'c'
  | .help => some 'h'
  | .version => some 'V'
  | _ => none

/-- Whether an option takes a value. -/
def Flag.takesValue : Flag → Bool
  | .config | .databaseUrl | .logLevel | .keyType | .olderThan => true
  | .apply | .help | .version => false

/-- The variable that stands for an option that is not given. -/
def Flag.variable? : Flag → Option String
  | .config => some "AUTHSTORE_CONFIG"
  | .databaseUrl => some "AUTHSTORE_DATABASE_URL"
  | _ => none

/-- Checks the value of an option. -/
def Flag.check (f : Flag) (value : String) : Except Refusal Unit :=
  match f with
  | .config => if value.isEmpty then .error .impossibleValue else .ok ()
  | .keyType => if (KeyKind.ofName? value).isNone then .error .impossibleValue else .ok ()
  | .olderThan => if (Span.ofText? value).isNone then .error .unreadableValue else .ok ()
  | _ => .ok ()

/-- The commands by their names. -/
def Level.ofCommand? (name : String) : Option Level :=
  if name = "schema" then some .schema
  else if name = "prune" then some .prune
  else if name = "pruner" then some .pruner
  else none

/-- The options of a part of the command line. -/
def Level.flags : Level → List Flag
  | .front => [.config, .databaseUrl, .logLevel, .help, .version]
  | .schema => [.apply, .keyType, .config, .databaseUrl, .logLevel, .help]
  | .prune => [.olderThan, .config, .databaseUrl, .logLevel, .help]
  | .pruner => [.config, .databaseUrl, .logLevel, .help]

end GrantLedger.CommandLine
