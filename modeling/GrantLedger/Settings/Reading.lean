import GrantLedger.Decimal.Plain
import GrantLedger.Json.Basic

/-!
# Reading values of settings

Settings come as JSON values, either as somebody wrote them in JSON, and then every value has the
type that it should have, or collected from files and variables, where texts stand for numbers and
the other way round. `Reading` tells the two apart.
-/

namespace GrantLedger.Settings

/-- How values of settings are read. -/
inductive Reading where
  /-- Every value has the type that it should have. -/
  | exact
  /-- The same, for a group whose settings stand among those of a larger group. -/
  | inlined
  /-- Scalars are converted. -/
  | converting
  deriving DecidableEq, Repr

namespace Reading

/-- The truth value that a word stands for. -/
def wordValue? (s : String) : Option Bool :=
  let word := String.ofList (s.toList.map Char.toLower)
  if ["true", "on", "yes"].contains word then some true
  else if ["false", "off", "no"].contains word then some false
  else none

/-- A whole number that fits below a bound. -/
def below? (bound : Nat) (n : Int) : Option Nat :=
  if 0 ≤ n ∧ n < bound then some n.toNat else none

/-- A numeral without a minus sign, of a number that fits into 64 bits. -/
def readNat64? (s : String) : Option Nat :=
  if s.toList.head? = some '-' then none
  else ((Numeral.readWithin 0 18_446_744_073_709_551_615 s).toOption).map Int.toNat

/-- A whole number below a bound. Converting rounds a floating-point number, a half away from zero,
and takes the nearest number of 64 bits for one out of range. -/
def nat? (reading : Reading) (bound : Nat) (j : Json) : Option Nat :=
  match reading, j with
  | _, .int n => below? bound n
  | .converting, .bool b => below? bound b.toNat
  | .converting, .float x => below? bound x.round.toUInt64.toNat
  | .converting, .str s =>
    match wordValue? s with
    | some b => below? bound b.toNat
    | none => (readNat64? s).bind fun n => below? bound n
  | _, _ => none

/-- A truth value. -/
def bool? (reading : Reading) (j : Json) : Option Bool :=
  match reading, j with
  | _, .bool b => some b
  | .converting, .int n => some (n != 0)
  | .converting, .float x => some (x != 0)
  | .converting, .str s =>
    if s = "1" then some true else if s = "0" then some false else wordValue? s
  | _, _ => none

/-- A text. -/
def text? (reading : Reading) (j : Json) : Option String :=
  match reading, j with
  | _, .str s => some s
  | .converting, .bool b => some (if b then "true" else "false")
  | .converting, .int n => some (Numeral.write n)
  | .converting, .float x => some (Decimal.plain x)
  | _, _ => none

/-- A value that may be absent. -/
def option? {α : Type} (read : Json → Option α) (j : Json) : Option (Option α) :=
  match j with
  | .null => some none
  | j => (read j).map some

/-- What may stand beside a name that needs nothing beside it. -/
def besideName (reading : Reading) (j : Json) : Bool :=
  match reading, j with
  | .converting, _ => true
  | .inlined, .obj [] => true
  | _, .null => true
  | _, _ => false

/-- A name: a text, or the only member of an object. -/
def name? (reading : Reading) (j : Json) : Option String :=
  match j with
  | .str s => some s
  | .obj [(name, beside)] => if reading.besideName beside then some name else none
  | _ => none

/-- The settings of a group by their names: the members of an object, or the items of an array in
the order of the names. -/
def fields? (reading : Reading) (names : List String) (j : Json) : Option (String → Option Json) :=
  match j with
  | .obj _ => some fun name => j.member? name
  | .arr items =>
    if reading = .converting ∨ items.length ≤ names.length then
      some fun name => items[names.idxOf name]?
    else none
  | _ => none

/-- A setting that keeps its default if it is not given. -/
def orDefault {α : Type} (given : Option Json) (default : α) (read : Json → Option α) : Option α :=
  match given with
  | none => some default
  | some j => read j

end Reading

end GrantLedger.Settings
