import GrantLedger.Json.Basic
import GrantLedger.Record.Basic

/-!
# Records as JSON

A record is an object with a member per column, named like the column in camel case. Integers are
JSON integers; texts, UUIDs and points in time are strings. Absent columns are null, except that a
client secret and a payload are left out; an object may leave out any member and have others. An
array of all values in the order of the columns is read too.
-/

namespace GrantLedger

/-- A type of entities with a JSON form. -/
class JsonForm (M : Type) where
  /-- The JSON form of an entity. -/
  toJson : M → Json
  /-- Reads an entity from its JSON form. -/
  ofJson? : Json → Option M

/-- A name in camel case: a letter after an underscore is a capital one. -/
def camelCaseChars : List Char → List Char
  | '_' :: c :: rest => c.toUpper :: camelCaseChars rest
  | c :: rest => c :: camelCaseChars rest
  | [] => []

/-- The name of the member for a column. -/
def Column.memberName (c : Column) : String := String.ofList (camelCaseChars c.name.toList)

/-- Whether the member for a column is left out if the column is absent. -/
def Column.isOmitted (c : Column) : Bool := c.name == "client_secret" || c.name == "payload"

/-- A cell as JSON. -/
def Cell.toJson : Cell → Json
  | .null => .null
  | .key (.int n) => .int n.toInt
  | .key (.text s) => .str s
  | .key (.uuid u) => .str u.toText
  | .text s => .str s
  | .timestamp t => .str t.toText

/-- An integer that fits into 64 bits. -/
def int64? (n : Int) : Option Int64 :=
  if -9_223_372_036_854_775_808 ≤ n ∧ n < 9_223_372_036_854_775_808 then some (Int64.ofInt n) else none

/-- Reads an identifier of type `K` from JSON. -/
def EntityKey.ofJson? (K : Type) [EntityKey K] (j : Json) : Option K := do
  let key ← match EntityKey.kind K, j with
    | .bigint, .int n => (int64? n).map Key.int
    | .text, .str s => some (Key.text s)
    | .uuid, .str s => (Uuid.ofText? s).map Key.uuid
    | _, _ => none
  (EntityKey.ofKey key).toOption

/-- Reads the value of a column from JSON. -/
def ColumnType.cellOfJson? (K : Type) [EntityKey K] (type : ColumnType) (j : Json) : Option Cell :=
  match type, j with
  | _, .null => some .null
  | .text _, .str s => some (.text s)
  | .timestamp, .str s => (Timestamp.ofText? s).map .timestamp
  | .key, j | .reference _, j =>
    (EntityKey.ofJson? K j).map fun k => .key (EntityKey.toKey k)
  | _, _ => none

namespace Record

variable {R K : Type} [Record R K]

/-- A record as a JSON object. -/
def toJson (r : R) : Json :=
  let row := Record.toRow r
  .object ((Record.kind R).columns.filterMap fun c =>
    match row.cell c.name with
    | .null => if c.isOmitted then none else some (c.memberName, .null)
    | cell => some (c.memberName, cell.toJson))

/-- Reads a record from an object or from an array of all values. -/
def ofJson? [EntityKey K] (j : Json) : Option R := do
  let columns := (Record.kind R).columns
  let values ← match j with
    | .obj _ => some (columns.map fun c => j.member c.memberName)
    | .arr items => if items.length = columns.length then some items else none
    | _ => none
  let cells ← (columns.zip values).mapM fun (c, v) =>
    (c.type.cellOfJson? K v).map fun cell => (c.name, cell)
  (Record.ofRow (Row.ofList cells)).toOption

instance [EntityKey K] : JsonForm R where
  toJson := toJson
  ofJson? := ofJson?

end Record

end GrantLedger
