import GrantLedger.CommandLine.Options

/-!
# Reading the arguments

The arguments are read from left to right. A value is only settled, and checked, when the next
option comes or the arguments end, so of two faults an unknown argument wins over the bad value
before it, and a fault behind the name of the command wins over one in the last value before it.
-/

namespace GrantLedger.CommandLine

/-! ## 1. What a part of the command line gives -/

/-- The options that a part of the command line gives. -/
structure Given where
  /-- The options with their values, latest first. -/
  values : List (Flag × String) := []
  /-- The option that came last and is not settled yet, with its value if this came as well. -/
  pending : Option (Flag × Option String) := none
  deriving DecidableEq, Repr

namespace Given

/-- Whether the next argument is the value of an option. -/
def isAwaiting (g : Given) : Bool := g.pending.any (·.2.isNone)

/-- Gives an option its value, once. -/
def record (g : Given) (f : Flag) (value : String) : Except Refusal Given :=
  if (g.values.lookup f).isSome then .error .repeatedOption
  else (f.check value).map fun _ => { g with values := (f, value) :: g.values }

/-- Settles the option that came last. -/
def settle (g : Given) : Except Refusal Given :=
  match g.pending with
  | none => .ok g
  | some (_, none) => .error .impossibleValue
  | some (f, some value) => { g with pending := none }.record f value

/-- Goes on with an option that has its value with it, or takes none. -/
def give (g : Given) (level : Level) (f : Flag) (value : String) : Except Refusal Given := do
  let g ← g.settle
  match f with
  | .help => .error (.displayHelp (some level))
  | .version => .error .displayVersion
  | _ => g.record f value

/-- Goes on with an option whose value is the next argument. -/
def await (g : Given) (f : Flag) : Except Refusal Given :=
  g.settle.map fun g => { g with pending := some (f, none) }

/-- Takes the value of the option that came last. -/
def supply (g : Given) (value : String) : Given :=
  { g with pending := g.pending.map fun p => (p.1, some value) }

end Given

/-! ## 2. Options -/

/-- Goes on with an option by its name, with the value after an equals sign if there is one. -/
def readLong (level : Level) (g : Given) (name : String) (value : Option String) :
    Except Refusal Given :=
  match level.flags.find? (·.name = name), value with
  | none, _ => .error .unknownArgument
  | some f, some value => if f.takesValue then g.give level f value else .error .unexpectedValue
  | some f, none => if f.takesValue then g.await f else g.give level f ""

/-- Goes on with options by their letters. What follows the letter of an option that takes a value
is its value, after an equals sign or not. -/
def readShort (level : Level) : Given → List Char → Except Refusal Given
  | g, [] => .ok g
  | g, c :: rest =>
    match level.flags.find? (·.letter? = some c) with
    | none => .error .unknownArgument
    | some f =>
      if f.takesValue then
        match rest with
        | [] => g.await f
        | '=' :: value => g.give level f (String.ofList value)
        | value => g.give level f (String.ofList value)
      else do readShort level (← g.give level f "") rest

/-! ## 3. Arguments -/

/-- What an argument looks like. -/
inductive Shape where
  /-- Two hyphens alone: only plain arguments follow. -/
  | divider
  | long (name : String) (value : Option String)
  | short (letters : List Char)
  | plain
  deriving DecidableEq, Repr

/-- The shape of an argument. -/
def shape (arg : String) : Shape :=
  match arg.toList with
  | ['-', '-'] => .divider
  | '-' :: '-' :: cs =>
    let name := String.ofList (cs.takeWhile (· ≠ '='))
    match cs.dropWhile (· ≠ '=') with
    | [] => .long name none
    | _ :: value => .long name (some (String.ofList value))
  | '-' :: c :: cs => .short (c :: cs)
  | _ => .plain

/-- The refusal of the command `help` with the arguments after it, which should name a command. -/
def helpOn : List String → Refusal
  | [] => .displayHelp (some .front)
  | [name] =>
    if name = "help" then .displayHelp none
    else (Level.ofCommand? name).elim .unknownCommand fun level => .displayHelp (some level)
  | _ => .unknownCommand

/-- The refusal of an argument that has no place. -/
def misplaced (level : Level) : Refusal :=
  if level = .front then .unknownCommand else .unknownArgument

/-- The refusal of what follows a divider. -/
def behindDivider (level : Level) (arg : String) : Refusal :=
  if arg = "help" ∨ (Level.ofCommand? arg).isSome then .unknownArgument else misplaced level

/-- Reads the arguments of a part of the command line. The front part ends at the name of a command,
which comes with the arguments after it. -/
def readLevel (level : Level) : Given → List String →
    Except Refusal (Given × Option (Level × List String))
  | g, [] => .ok (g, none)
  | g, arg :: rest =>
    let named := level = .front ∧ !g.isAwaiting
    match if named then Level.ofCommand? arg else none with
    | some command => .ok (g, some (command, rest))
    | none =>
      if named ∧ arg = "help" then .error (helpOn rest)
      else
        match shape arg with
        | .divider =>
          match rest with
          | [] => .ok (g, none)
          | next :: _ => .error (behindDivider level next)
        | .long name value => do readLevel level (← readLong level g name value) rest
        | .short letters => do readLevel level (← readShort level g letters) rest
        | .plain =>
          if g.isAwaiting then readLevel level (g.supply arg) rest else .error (misplaced level)

/-! ## 4. The whole command line -/

/-- The value that a variable gives an option. -/
def ofVariable? (env : Settings.Environment) (f : Flag) : Option String :=
  f.variable?.bind fun name => List.lookup name env

/-- Checks the variables that stand for options that are not given. -/
def checkVariables (env : Settings.Environment) (g : Given) : Except Refusal Unit :=
  [Flag.config, .databaseUrl].forM fun f =>
    if (g.values.lookup f).isSome then .ok () else (ofVariable? env f).elim (.ok ()) f.check

/-- Completes a part of the command line. -/
def complete (env : Settings.Environment) (g : Given) : Except Refusal Given := do
  let g ← g.settle
  checkVariables env g
  return g

/-- The command that a part of the command line names, with its own options. -/
def commandOf? (level : Level) (g : Given) : Option Command :=
  match level with
  | .front => none
  | .schema =>
    some (.schema (g.values.lookup .apply).isSome ((g.values.lookup .keyType).bind KeyKind.ofName?))
  | .prune => some (.prune ((g.values.lookup .olderThan).bind Span.ofText?))
  | .pruner => some .pruner

/-- Reads a command line. An option after the name of the command counts before one in front of it,
and both count before a variable. -/
def read (args : List String) (env : Settings.Environment) : Except Refusal Options := do
  let (front, behind) ← readLevel .front {} args
  match behind with
  | none =>
    let front ← complete env front
    let stated := [Flag.config, .databaseUrl].filterMap (ofVariable? env)
    .error (if front.values.isEmpty ∧ stated.isEmpty then .nothingGiven else .missingCommand)
  | some (level, rest) =>
    let (own, _) ← readLevel level {} rest
    let own ← complete env own
    let front ← complete env front
    let value (f : Flag) : Option String :=
      (own.values.lookup f).or ((front.values.lookup f).or (ofVariable? env f))
    match commandOf? level own with
    | none => .error .missingCommand
    | some command => .ok ⟨command, value .config, value .databaseUrl, value .logLevel⟩

end GrantLedger.CommandLine
