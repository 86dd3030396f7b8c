import GrantLedger.CommandLine.Arguments
import GrantLedger.CommandLine.Help
import GrantLedger.Database.Context
import GrantLedger.Json.Render
import GrantLedger.Sql.Definition
import GrantLedger.Wire.Values

/-!
# Running the tool

`run` says what a command line comes to: what is printed, and the code that the tool ends with. This
is zero on success, two for a command line that cannot be used, and one for any other failure. Help
and the version are printed on success.
-/

namespace GrantLedger.CommandLine

/-! ## 1. Outcomes -/

/-- Why a command fails. -/
inductive Failure where
  /-- The settings cannot be loaded, or have a fault. -/
  | unloaded (fault : Settings.Fault)
  /-- The address of the database on the command line is refused. -/
  | badAddress (fault : Settings.Fault)
  /-- The log level on the command line is refused. -/
  | badLevel (fault : Settings.Fault)
  | unconnected (cause : StoreError)
  | unapplied (cause : StoreError)
  | unpruned (cause : StoreError)
  deriving DecidableEq

/-- What the tool was about when it failed, in words. -/
def Failure.context? : Failure → Option String
  | .unloaded _ => some "Failed to load configuration"
  | .badAddress _ => some "Invalid --database-url"
  | .badLevel _ => none
  | .unconnected _ => some "Failed to connect to database"
  | .unapplied _ => some "Failed to apply schema"
  | .unpruned _ => some "Pruning failed"

/-- What went wrong, in words. -/
def Failure.cause : Failure → String
  | .unloaded fault | .badAddress fault | .badLevel fault => fault.message
  | .unconnected cause | .unapplied cause | .unpruned cause => cause.message

/-- The failure in words. -/
def Failure.message (f : Failure) : String := f.context?.elim "" (· ++ ": ") ++ f.cause

/-- How a run of the tool ends. -/
inductive Outcome where
  /-- It prints a text. -/
  | printed (text : String)
  /-- The command line cannot be used. -/
  | refused (r : Refusal)
  | failed (f : Failure)
  deriving DecidableEq

namespace Outcome

/-- The code that the tool ends with. -/
def code : Outcome → Nat
  | .printed _ => 0
  | .failed _ => 1
  | .refused _ => 2

/-- What the tool prints as its result. -/
def output : Outcome → String
  | .printed text => text
  | _ => ""

/-- What the tool reports as a failure. -/
def report? : Outcome → Option String
  | .failed f => some ("error: " ++ f.message)
  | .refused r => some ("error: " ++ r.name)
  | .printed _ => none

end Outcome

/-! ## 2. Settings -/

/-- Loads the settings. An address of the database on the command line replaces the one that was
loaded, and then all settings are checked again. -/
def loadSettings (file : Settings.File) (env : Settings.Environment) (databaseUrl : Option String) :
    Except Failure Settings.Tool := do
  let settings ← (Settings.load Settings.Tool file env).mapError .unloaded
  match databaseUrl with
  | none => return settings
  | some url =>
    let settings := { settings with database := { settings.database with url } }
    (settings.check.mapError .badAddress).map fun _ => settings

/-- The settings with the log level of the command line. -/
def withLogLevel (logLevel : Option String) (settings : Settings.Tool) :
    Except Failure Settings.Tool :=
  match logLevel with
  | none => .ok settings
  | some logLevel =>
    let settings := { settings with logLevel }
    (settings.check.mapError .badLevel).map fun _ => settings

/-- The path of the file of settings that is read if it exists. -/
def defaultPath : String := "authstore.toml"

/-- The format of a file by what its path ends in. -/
def formatOf? (path : String) : Option Settings.Format :=
  let ending := (path.toList.reverse.takeWhile fun c => c ≠ '.' ∧ c ≠ '/').reverse
  if ending = "toml".toList then some .toml
  else if ending = "json".toList then some .json
  else none

/-- The file of settings: the one that the command line names, or the default one. -/
def settingsFile (files : String → Option String) (named : Option String) : Settings.File :=
  let path := named.getD defaultPath
  match files path with
  | some text => .content (formatOf? path) text
  | none => if named.isSome then .missing path else .absent

/-! ## 3. Commands -/

/-- Prints or applies the table definitions. -/
def runSchema (settings : Settings.Tool) (apply : Bool) (keyKind : Option KeyKind) : Outcome :=
  let key := keyKind.getD settings.database.keyKind
  if !apply then .printed (Sql.definitions key ++ "\n")
  else
    match Database.openContext settings.database with
    | .error e => .failed (.unconnected e)
    | .ok context =>
      match { context with keyKind := key }.applyDefinitions with
      | .error e => .failed (.unapplied e)
      | .ok () => .printed ""

/-- Runs one pruning pass. Only a pass that needs no session succeeds, because no session can be
opened. For the same reason, the periodic job ends with its first pass. -/
def runPrune (settings : Settings.Tool) (now : Timestamp) (olderThan : Option Span) : Outcome :=
  let prune := settings.store.prune
  let prune := { prune with
    tokenRetention := olderThan.getD prune.tokenRetention
    authorizationRetention := olderThan.getD prune.authorizationRetention }
  let pass := Pruning.runPass prune now .never (Pruning.sweeper .token prune now)
    (Pruning.sweeper .authorization prune now)
  match pass with
  | .settled (.ok report) => .printed (report.toJson.renderWide ++ "\n")
  | .settled (.error e) => .failed (.unpruned e)
  | .session _ =>
    match (Database.openContext settings.database).bind (·.openSession) with
    | .error e => .failed (.unpruned e)
    | .ok session => nomatch session

/-- Runs the tool with arguments after its name, at an instant, where a file is known by its path.
-/
def run (args : List String) (env : Settings.Environment) (files : String → Option String)
    (now : Timestamp) : Outcome :=
  match read args env with
  | .error (.displayHelp topic) => .printed (helpText env topic)
  | .error .displayVersion => .printed (toolName ++ " " ++ version ++ "\n")
  | .error r => .refused r
  | .ok options =>
    let file := settingsFile files options.config
    match (loadSettings file env options.databaseUrl).bind (withLogLevel options.logLevel) with
    | .error f => .failed f
    | .ok settings =>
      match options.command with
      | .schema apply keyKind => runSchema settings apply keyKind
      | .prune olderThan => runPrune settings now olderThan
      | .pruner => runPrune settings now none

end GrantLedger.CommandLine
