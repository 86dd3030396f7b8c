import GrantLedger.Pruning.Pass
import GrantLedger.Query.RowQuery
import GrantLedger.Record.Json
import GrantLedger.Sql.Statement

/-!
# Values as JSON

The JSON forms in which tools exchange keys, cells, rows, filters, orders and errors with the
library. Unlike the JSON form of a record, they say of each cell what type of value it holds.
Statements and the reports of pruning are only shown.
-/

namespace GrantLedger

/-! ## 1. Keys, cells and rows -/

/-- A key: `int`, `key` (a text) or `uuid` with its value. -/
def Key.toWire : Key → Json
  | .int n => .object [("int", .int n.toInt)]
  | .text s => .object [("key", .str s)]
  | .uuid u => .object [("uuid", .str u.toText)]

/-- Reads a key. -/
def Key.ofWire? : Json → Option Key
  | .obj [("int", .int n)] => (int64? n).map .int
  | .obj [("key", .str s)] => some (.text s)
  | .obj [("uuid", .str s)] => (Uuid.ofText? s).map .uuid
  | _ => none

/-- A cell: null, a string, `ts` with a point in time, or a key. -/
def Cell.toWire : Cell → Json
  | .null => .null
  | .text s => .str s
  | .timestamp t => .object [("ts", .str t.toText)]
  | .key k => k.toWire

/-- Reads a cell. -/
def Cell.ofWire? : Json → Option Cell
  | .null => some .null
  | .str s => some (.text s)
  | .obj [("ts", .str s)] => (Timestamp.ofText? s).map .timestamp
  | j => (Key.ofWire? j).map .key

/-- A row: an object of cells. -/
def Row.toWire (r : Row) : Json := .object (r.toList.map fun e => (e.1, e.2.toWire))

/-- Reads a row. -/
def Row.ofWire? : Json → Option Row
  | .obj members =>
    (members.mapM fun (m : String × Json) => (Cell.ofWire? m.2).map fun c => (m.1, c)).map .ofList
  | _ => none

/-! ## 2. Queries -/

/-- Reads a test of a column: its name and, where it has one, its argument. -/
def Predicate.ofWire? (name : String) (argument : Option Json) : Option Predicate :=
  let value := argument.bind Cell.ofWire?
  match name with
  | "eq" => value.map .eq
  | "ne" => value.map .ne
  | "lt" => value.map .lt
  | "le" => value.map .le
  | "gt" => value.map .gt
  | "ge" => value.map .ge
  | "is_null" => some .isNull
  | "is_not_null" => some .isNotNull
  | "contains" =>
    match argument with
    | some (.str needle) => some (.contains needle)
    | _ => none
  | "in" =>
    match argument with
    | some (.arr values) => (values.mapM Cell.ofWire?).map .oneOf
    | _ => none
  | _ => none

/-- Reads a condition: a column, a test and its argument. -/
def Condition.ofWire? : Json → Option Condition
  | .arr [.str column, .str test] => (Predicate.ofWire? test none).map (⟨column, ·⟩)
  | .arr [.str column, .str test, x] => (Predicate.ofWire? test (some x)).map (⟨column, ·⟩)
  | _ => none

/-- Reads a filter: an array of conditions, or null for none. -/
def Filter.ofWire? : Json → Option Filter
  | .null => some .all
  | .arr items => (items.mapM Condition.ofWire?).map .mk
  | _ => none

/-- Reads an order: an array of columns with directions, or null for none. -/
def OrderTerm.listOfWire? : Json → Option (List OrderTerm)
  | .null => some []
  | .arr items => items.mapM fun
    | .arr [.str column, .str direction] => (Direction.ofName? direction).map (⟨column, ·⟩)
    | _ => none
  | _ => none

/-- Reads which entities are asked for, and through which window, whose members have the given
names. -/
def EntityQuery.ofWire? (skipName takeName : String) (j : Json) : Option EntityQuery := do
  let filter ← Filter.ofWire? (j.member "filter")
  let order ← OrderTerm.listOfWire? (j.member "order")
  let skip ← j.optional? skipName Json.nat?
  let take ← j.optional? takeName Json.nat?
  return { filter, order, skip := skip.getD 0, take }

/-- An order. -/
def OrderTerm.listToWire (order : List OrderTerm) : Json :=
  .arr (order.map fun t => .arr [.str t.column, .str t.direction.name])

/-! ## 3. Tables, errors and names -/

/-- The type of a column. -/
def ColumnType.toWire : ColumnType → Json
  | .key => .str "key"
  | .reference kind => .object [("reference", .str kind.name)]
  | .text limit => .object [("text", limit.elim .null .ofNat)]
  | .timestamp => .str "timestamp"

/-- A column: its name and its type. -/
def Column.toWire (c : Column) : Json := .arr [.str c.name, c.type.toWire]

/-- The name of the kind of an error. -/
def StoreError.kindName : StoreError → String
  | .unsupportedEntity .. => "UnsupportedEntity"
  | .configuration _ => "Configuration"
  | .concurrencyConflict .. => "ConcurrencyConflict"
  | .referentialConflict .. => "ReferentialConflict"
  | .validation _ => "Validation"
  | .backend _ => "Backend"

/-- An error: its kind and its words; of an unsupported entity the kind of the entity. -/
def StoreError.toWire (e : StoreError) : Json :=
  match e with
  | .unsupportedEntity _ kind =>
    .object [("error", .str e.kindName), ("kind", .str kind.name)]
  | _ => .object [("error", .str e.kindName), ("message", .str e.message)]

/-- A fault of settings: its class and, except of an unreadable source, its words. -/
def Settings.Fault.toWire (f : Settings.Fault) : Json :=
  match f.kind with
  | .invalidValue => .object [("error", .str "InvalidValue"), ("message", .str f.message)]
  | .missing => .object [("error", .str "Missing"), ("message", .str f.message)]
  | .load => .object [("error", .str "Load")]

/-- Reads a name out of a list of named values: a string, or an object that binds the name to
null. -/
def nameOfWire? : Json → Option String
  | .str name => some name
  | .obj [(name, .null)] => some name
  | _ => none

/-! ## 4. Statements and reports -/

/-- A parameter: its type with its value. -/
def Sql.Param.toWire : Sql.Param → Json
  | .text value => .object [("text", .ofText? value)]
  | .int value => .object [("int", value.elim .null fun n => .int n.toInt)]
  | .uuid value => .object [("uuid", .ofText? (value.map Uuid.toText))]
  | .timestamp value => .object [("ts", .ofText? (value.map Timestamp.toText))]

/-- A statement: its text and its parameters. -/
def Sql.Statement.toWire (s : Sql.Statement) : Json :=
  .object [("sql", .str s.text), ("params", .arr (s.params.map Sql.Param.toWire))]

/-- What a sweep did. -/
def Pruning.Report.toJson (r : Pruning.Report) : Json :=
  .obj [("deleted", .ofNat r.deleted), ("batches", .ofNat r.batches),
    ("cancelled", .bool r.cancelled)]

/-- What a pass did, where a sweep that did not take place is null. -/
def Pruning.PassReport.toJson (r : Pruning.PassReport) : Json :=
  let part (r : Option Pruning.Report) : Json := r.elim .null Pruning.Report.toJson
  .obj [("tokens", part r.tokens), ("authorizations", part r.authorizations)]

end GrantLedger
