import GrantLedger.Settings.Json
import GrantLedger.Settings.Path
import GrantLedger.Json.Read
import GrantLedger.Toml.Document

/-!
# Where settings come from

Settings are loaded from a file, if there is one, and from variables of the environment, which win
over the file. The names in a file and those of variables are paths (`Path.ofName`), so a variable
can set a single value of a group.
-/

namespace GrantLedger.Settings

/-- The formats of files of settings. -/
inductive Format where
  | toml
  | json
  deriving DecidableEq, Repr

/-- A file of settings. -/
inductive File where
  /-- There is none. -/
  | absent
  /-- The file that somebody named does not exist. -/
  | missing (path : String)
  /-- A file with a text, whose format is known or not. -/
  | content (format : Option Format) (text : String)
  deriving DecidableEq, Repr

/-- The variables of an environment. -/
abbrev Environment := List (String × String)

/-! ## 1. Files -/

/-- Integers beyond 64 bits with a sign become floating-point numbers. -/
def narrowInteger (n : Int) : Json :=
  if -9_223_372_036_854_775_808 ≤ n ∧ n < 9_223_372_036_854_775_808 then .int n else .float (Float.ofInt n)

mutual

/-- A value with its integers narrowed. -/
def narrow : Json → Json
  | .int n => narrowInteger n
  | .arr items => .arr (narrowItems items)
  | .obj members => .obj (narrowMembers members)
  | .null => .null
  | .bool b => .bool b
  | .float x => .float x
  | .str s => .str s

/-- Items with their integers narrowed. -/
def narrowItems : List Json → List Json
  | [] => []
  | item :: rest => narrow item :: narrowItems rest

/-- Members with their integers narrowed. -/
def narrowMembers : List (String × Json) → List (String × Json)
  | [] => []
  | (name, value) :: rest => (name, narrow value) :: narrowMembers rest

end

/-- A text without a mark for its byte order. -/
def withoutMark (text : String) : String :=
  match text.toList with
  | '\ufeff' :: rest => String.ofList rest
  | _ => text

/-- The members of a file, which holds an object. -/
def File.members? : File → Option (List (String × Json))
  | .absent | .missing _ => some []
  | .content format text =>
    let text := withoutMark text
    let value := match format with
      | some .toml => Toml.read? (withoutMark text)
      | some .json => (Json.read? text).map narrow
      | none => none
    match value with
    | some (.obj members) => some members
    | _ => none

/-! ## 2. Variables -/

/-- What the name of a variable of settings begins with. -/
def variableStart : String := "authstore__"

/-- A character in lower case, where the sign of the kelvin is a letter as well. -/
def lowered (c : Char) : Char := if c = '\u212a' then 'k' else c.toLower

/-- Writes a dot for two underscores. -/
def dotted : List Char → List Char
  | '_' :: '_' :: rest => '.' :: dotted rest
  | c :: rest => c :: dotted rest
  | [] => []

/-- The name of the value that a variable sets. -/
def settingOf? (name : String) : Option String :=
  let cs := name.toList.map lowered
  if variableStart.toList.isPrefixOf cs then
    some (String.ofList (dotted (cs.drop variableStart.length)))
  else none

/-- The value of a variable: a truth value, an integer of 64 bits, a floating-point number, or else
a text. -/
def variableValue (text : String) : Json :=
  let word := String.ofList (text.toList.map Char.toLower)
  if word = "true" then .bool true
  else if word = "false" then .bool false
  else
    match Numeral.readInt64 text, Decimal.ofText? text with
    | .ok n, _ => .int n.toInt
    | .error _, some x => .float x
    | .error _, none => .str text

/-- The members that an environment sets. Of two variables of one name the later one counts. -/
def Environment.members (env : Environment) : List (String × Json) :=
  (OrdMap.ofList (env.filterMap fun v =>
    (settingOf? v.1).map fun name => (name, variableValue v.2))).entries

/-! ## 3. Loading -/

/-- Lays the members of a source over settings. -/
def layOver (source settings : List (String × Json)) : List (String × Json) :=
  source.foldl (fun settings m => (Path.ofName m.1).set m.2 settings) settings

/-- The settings of a file and an environment. -/
def gather? (file : File) (env : Environment) : Option Json :=
  file.members?.map fun members => .obj (layOver env.members (layOver members []))

/-- A group of settings. -/
class Group (α : Type) where
  /-- Reads a group. -/
  ofJson? : Reading → Json → Option α
  toJson : α → Json
  /-- Reports the first fault of a group. -/
  check : α → Except Fault Unit

instance : Group Store := ⟨Store.ofJson?, Store.toJson, Store.check⟩

instance : Group Database := ⟨Database.ofJson?, Database.toJson, Database.check⟩

instance : Group Tool := ⟨Tool.ofJson?, Tool.toJson, Tool.check⟩

/-- A group of settings that reading found, if it has no fault. -/
def checked {α : Type} [Group α] (found : Option α) : Except Fault α :=
  match found with
  | none => .error .unreadable
  | some settings => (Group.check settings).map fun _ => settings

/-- Loads a group of settings. -/
def load (α : Type) [Group α] (file : File) (env : Environment) : Except Fault α :=
  match file with
  | .missing path => .error (.missingFile path)
  | _ => checked ((gather? file env).bind (Group.ofJson? .converting))

end GrantLedger.Settings
