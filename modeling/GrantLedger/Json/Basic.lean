import GrantLedger.OrdMap

/-!
# JSON values

An object keeps its members in strictly ascending order of their names; `Json.object` builds one
from members in any order, of which the last of a name counts. Integers are exact; a number with a
fraction or an exponent, or one beyond 64 bits, is a floating-point number.
-/

namespace GrantLedger

/-- A JSON value. -/
inductive Json where
  | null
  | bool (value : Bool)
  | int (value : Int)
  | float (value : Float)
  | str (value : String)
  | arr (items : List Json)
  /-- An object. The names of its members ascend, except in what is only written out. -/
  | obj (members : List (String × Json))
  deriving Inhabited

namespace Json

/-- The object with the given members, of which the last of a name counts. -/
def object (members : List (String × Json)) : Json := .obj (OrdMap.ofList members).entries

mutual

/-- A value with the members of all its objects in order, the last one of each name. -/
def canonical : Json → Json
  | .arr items => .arr (canonicalItems items)
  | .obj members => object (canonicalMembers members)
  | .null => .null
  | .bool b => .bool b
  | .int n => .int n
  | .float x => .float x
  | .str s => .str s

/-- Each item in canonical form. -/
def canonicalItems : List Json → List Json
  | [] => []
  | item :: rest => canonical item :: canonicalItems rest

/-- Each member with its value in canonical form. -/
def canonicalMembers : List (String × Json) → List (String × Json)
  | [] => []
  | (name, value) :: rest => (name, canonical value) :: canonicalMembers rest

end

/-- The member of an object with a given name. -/
def member? (name : String) : Json → Option Json
  | .obj members => (members.find? (·.1 == name)).map Prod.snd
  | _ => none

/-- The member of an object with a given name, where an absent one is null. -/
def member (name : String) (j : Json) : Json := (j.member? name).getD .null

/-- Whether a value is null. -/
def isNull : Json → Bool
  | .null => true
  | _ => false

/-- The text of a string. -/
def text? : Json → Option String
  | .str s => some s
  | _ => none

/-- The number of a whole number that is not negative. -/
def nat? : Json → Option Nat
  | .int (.ofNat n) => some n
  | _ => none

/-- A truth value. -/
def bool? : Json → Option Bool
  | .bool b => some b
  | _ => none

/-- The items of an array. -/
def items? : Json → Option (List Json)
  | .arr items => some items
  | _ => none

/-- The texts of an array that holds nothing else. -/
def texts? (j : Json) : Option (List String) := j.items?.bind (·.mapM text?)

/-- Reads the member of an object with a given name, where an absent one and null have no value. -/
def optional? {α : Type} (j : Json) (name : String) (read : Json → Option α) : Option (Option α) :=
  match j.member name with
  | .null => some none
  | value => (read value).map some

/-- An optional text, null if absent. -/
def ofText? (s : Option String) : Json := s.elim .null .str

/-- A list of texts. -/
def ofTexts (l : List String) : Json := .arr (l.map .str)

/-- A whole number. -/
def ofNat (n : Nat) : Json := .int n

end Json

end GrantLedger
