import GrantLedger.Json.Basic
import GrantLedger.Numeral

/-!
# Paths into settings

A path leads from an object of settings to one of the values in it: `prune.batch_size` to a member
of a member, `servers[0]` to an item of an array. Setting the value at a path makes what does not
exist on the way and replaces what is of the wrong shape. An object that is set is laid over what is
there, member by member (`overlay`); any other value replaces what is there.
-/

namespace GrantLedger.Settings

/-- A step from a value to one that it holds. -/
inductive Step where
  | member (name : String)
  /-- An item of an array. Negative positions count from its end. -/
  | item (position : Int)
  deriving DecidableEq, Repr

/-- A path from an object. -/
structure Path where
  /-- The name of a member of the object. -/
  root : String
  /-- The steps from this member on. -/
  steps : List Step
  deriving DecidableEq, Repr

/-! ## 1. Paths as text -/

/-- Whether a character may be a part of a name in a path. -/
def isNameChar (c : Char) : Bool := c.isAlphanum || c = '_' || c = '-'

/-- Whether a character may stand around a position. -/
def isPadding (c : Char) : Bool := c = ' ' || c = '\t'

/-- Reads a nonempty name. -/
def readName (cs : List Char) : Option (String × List Char) :=
  let name := cs.takeWhile isNameChar
  if name.isEmpty then none else some (String.ofList name, cs.dropWhile isNameChar)

/-- Reads a position of 64 bits after its opening bracket, with the closing one. -/
def readPosition (cs : List Char) : Option (Int × List Char) :=
  let cs := cs.dropWhile isPadding
  let digits := (if cs.head? = some '-' then cs.drop 1 else cs).takeWhile Char.isDigit
  let numeral := (if cs.head? = some '-' then ['-'] else []) ++ digits
  match (cs.drop numeral.length).dropWhile isPadding with
  | ']' :: rest =>
    (Numeral.readInt64 (String.ofList numeral)).toOption.map fun n => (n.toInt, rest)
  | _ => none

/-- Reads steps up to the end of a text. -/
def readSteps : Nat → List Char → Option (List Step)
  | _, [] => some []
  | 0, _ => none
  | fuel + 1, '.' :: rest => do
    let (name, rest) ← readName rest
    return .member name :: (← readSteps fuel rest)
  | fuel + 1, '[' :: rest => do
    let (position, rest) ← readPosition rest
    return .item position :: (← readSteps fuel rest)
  | _, _ => none

/-- Reads a path. -/
def Path.ofText? (text : String) : Option Path := do
  let (root, rest) ← readName text.toList
  return ⟨root, ← readSteps rest.length rest⟩

/-- The path that a name stands for. A name that is no path is the name of a member. -/
def Path.ofName (name : String) : Path := (Path.ofText? name).getD ⟨name, []⟩

/-! ## 2. Values at paths -/

/-- The members of an object; other values have none. -/
def membersOf : Json → List (String × Json)
  | .obj members => members
  | _ => []

/-- The items of an array; other values have none. -/
def itemsOf : Json → List Json
  | .arr items => items
  | _ => []

/-- Changes a member of an object, which is null if it does not exist yet. -/
def changeMember (name : String) (change : Json → Json) (members : List (String × Json)) :
    List (String × Json) :=
  OrdMap.insertEntry name (change ((members.lookup name).getD .null)) members

/-- Changes an item of an array. The array grows by nulls up to the position; a position before its
start puts nulls in front and counts for the first of them. -/
def changeItem (position : Int) (change : Json → Json) (items : List Json) : List Json :=
  let i := if position < 0 then position + items.length else position
  if i < 0 then
    (List.replicate i.natAbs Json.null ++ items).modify 0 change
  else
    (items ++ List.replicate (i.toNat + 1 - items.length) Json.null).modify i.toNat change

mutual

/-- Lays a value over another one. -/
def overlay : Json → Json → Json
  | .obj members, below => .obj (overlayMembers members (membersOf below))
  | .arr items, _ => .arr items
  | .null, _ => .null
  | .bool b, _ => .bool b
  | .int n, _ => .int n
  | .float x, _ => .float x
  | .str s, _ => .str s

/-- Lays members over others, one after the other. -/
def overlayMembers : List (String × Json) → List (String × Json) → List (String × Json)
  | [], below => below
  | (name, value) :: rest, below =>
    overlayMembers rest (changeMember name (overlay value) below)

end

/-- Sets the value at the end of some steps. -/
def setSteps (value : Json) : List Step → Json → Json
  | [], below => overlay value below
  | .member name :: rest, below =>
    .obj (changeMember name (setSteps value rest) (membersOf below))
  | .item position :: rest, below =>
    .arr (changeItem position (setSteps value rest) (itemsOf below))

/-- Sets the value at a path from an object. -/
def Path.set (p : Path) (value : Json) (members : List (String × Json)) : List (String × Json) :=
  changeMember p.root (setSteps value p.steps) members

end GrantLedger.Settings
