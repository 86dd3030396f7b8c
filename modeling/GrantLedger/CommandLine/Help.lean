import GrantLedger.CommandLine.Options

/-!
# Help texts

A help text names the commands and options of a part of the command line. Options stand in a column
with what they do beside them; for an option with a variable, the value of this variable is shown.
-/

namespace GrantLedger.CommandLine

/-- The name that the tool goes by. -/
def toolName : String := "authstore"

/-- The version of the tool. -/
def version : String := "0.0.1"

/-- What the parts of the command line are for. -/
def Level.about : Level → String
  | .front => "Manage the schema and prune stale entries of an authstore database"
  | .schema => "Print or apply the table definitions"
  | .prune => "Run one pruning pass and print what was removed"
  | .pruner => "Prune periodically until interrupted"

/-- How a part of the command line is used. -/
def Level.usage : Level → String
  | .front => toolName ++ " [OPTIONS] <COMMAND>"
  | .schema => toolName ++ " schema [OPTIONS]"
  | .prune => toolName ++ " prune [OPTIONS]"
  | .pruner => toolName ++ " pruner [OPTIONS]"

/-- What an option does. -/
def Flag.about : Flag → String
  | .config => "Configuration file (defaults to ./authstore.toml when present)"
  | .databaseUrl => "Database URL (overrides postgres.url)"
  | .logLevel => "Log level when RUST_LOG is not set (overrides log_level)"
  | .apply => "Execute the DDL against the database instead of printing it"
  | .keyType =>
    "Key column type (overrides postgres.key_type) [possible values: text, bigint, uuid]"
  | .olderThan => "Retention for both tokens and authorizations, e.g. \"14d\" or \"36h\""
  | .help => "Print help"
  | .version => "Print version"

/-- An option as it is written. -/
def Flag.written (f : Flag) : String :=
  let letter := f.letter?.elim "    " fun c => String.ofList ['-', c, ',', ' ']
  let value := String.ofList (f.name.toList.map fun c => if c = '-' then '_' else c.toUpper)
  letter ++ "--" ++ f.name ++ (if f.takesValue then " <" ++ value ++ ">" else "")

/-- The options of a part of the command line in the order of the help text. -/
def Level.listed : Level → List Flag
  | .front => [.config, .databaseUrl, .logLevel, .help, .version]
  | .schema => [.apply, .config, .databaseUrl, .keyType, .logLevel, .help]
  | .prune => [.config, .olderThan, .databaseUrl, .logLevel, .help]
  | .pruner => [.config, .databaseUrl, .logLevel, .help]

/-- A text filled up with blanks to a width. -/
def padTo (width : Nat) (text : String) : String :=
  text ++ String.ofList (List.replicate (width - text.length) ' ')

/-- The line of an option. -/
def Flag.line (env : Settings.Environment) (width : Nat) (f : Flag) : String :=
  let shown := f.variable?.elim "" fun v =>
    " [env: " ++ v ++ "=" ++ (List.lookup v env).getD "" ++ "]"
  "  " ++ padTo width f.written ++ "  " ++ f.about ++ shown ++ "\n"

/-- The lines of the commands. -/
def commandLines : List String :=
  [Level.schema, .prune, .pruner].zip ["schema", "prune ", "pruner"] |>.map fun c =>
    "  " ++ c.2 ++ "  " ++ c.1.about ++ "\n"

/-- The help text of a part of the command line. -/
def helpOnLevel (env : Settings.Environment) (level : Level) : String :=
  let flags := level.listed
  let width := flags.foldl (fun w f => max w f.written.length) 0
  let commands := if level = .front then
      "Commands:\n" ++ String.join commandLines ++
        "  help    Print this message or the help of the given subcommand(s)\n\n"
    else ""
  level.about ++ "\n\nUsage: " ++ level.usage ++ "\n\n" ++ commands ++ "Options:\n" ++
    String.join (flags.map (Flag.line env width))

/-- The help text on a topic: a part of the command line, or the command `help` itself. -/
def helpText (env : Settings.Environment) : Option Level → String
  | some level => helpOnLevel env level
  | none =>
    "Print this message or the help of the given subcommand(s)\n\nUsage: " ++ toolName ++
      " help [COMMAND]...\n\nArguments:\n  [COMMAND]...  Print help for the subcommand(s)\n"

end GrantLedger.CommandLine
