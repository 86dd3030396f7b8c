import GrantLedger.EntityKey

/-!
# Parameters of statements

Values reach a statement as parameters only. A parameter has the SQL type of the column that it
stands beside, and keeps this type when it is null.
-/

namespace GrantLedger.Sql

/-- A parameter. -/
inductive Param where
  | text (value : Option String)
  | int (value : Option Int64)
  | uuid (value : Option Uuid)
  | timestamp (value : Option Timestamp)
  deriving DecidableEq

namespace Param

/-- The null of a form of keys. -/
def nullKey : KeyKind → Param
  | .text => .text none
  | .bigint => .int none
  | .uuid => .uuid none

/-- A key in the form in which keys are stored. -/
def ofKey (kind : KeyKind) (key : Key) : Except StoreError Param :=
  match kind with
  | .text => (EntityKey.ofKey (K := String) key).map fun s => .text (some s)
  | .bigint => (EntityKey.ofKey (K := Int64) key).map fun n => .int (some n)
  | .uuid => (EntityKey.ofKey (K := Uuid) key).map fun u => .uuid (some u)

/-- The value of a column of keys. -/
def ofKeyCell (kind : KeyKind) : Cell → Except StoreError Param
  | .null => .ok (nullKey kind)
  | .key key => ofKey kind key
  | .text s => ofKey kind (.text s)
  | .timestamp _ => .error (.validation .timestampAsKey)

/-- The value of a text column. -/
def ofTextCell : Cell → Except StoreError Param
  | .null => .ok (.text none)
  | .text s => .ok (.text (some s))
  | .key key => .ok (.text (some key.toText))
  | .timestamp _ => .error (.validation .timestampAsText)

/-- The value of a column of points in time. -/
def ofTimestampCell : Cell → Except StoreError Param
  | .null => .ok (.timestamp none)
  | .timestamp t => .ok (.timestamp (some t))
  | .text _ | .key _ => .error (.validation .notTimestamp)

/-- The value of a column of a type. -/
def ofCell (kind : KeyKind) (type : ColumnType) (value : Cell) : Except StoreError Param :=
  match type with
  | .key | .reference _ => ofKeyCell kind value
  | .text _ => ofTextCell value
  | .timestamp => ofTimestampCell value

/-- A number of rows. A number beyond the range of 64-bit integers counts as the largest of them. -/
def ofCount (n : Nat) : Param := .int (some (Int64.ofInt (min n 9_223_372_036_854_775_807)))

end Param

end GrantLedger.Sql
