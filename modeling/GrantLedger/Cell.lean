import GrantLedger.Key
import GrantLedger.Timestamp
import GrantLedger.Text.Characters

/-!
# Column values

A `Cell` is the value of one column of one row. `Cell.compare?` compares two cells the way a
database does: a comparison with NULL, or of values that have no common order, is unknown.
-/

namespace GrantLedger

/-- The value of a column. -/
inductive Cell where
  /-- No value. -/
  | null
  /-- An identifier or a reference. -/
  | key (value : Key)
  /-- A text. -/
  | text (value : String)
  /-- A point in time. -/
  | timestamp (value : Timestamp)
  deriving DecidableEq, Inhabited

namespace Cell

/-- Whether a cell holds no value. -/
def isNull : Cell → Bool
  | .null => true
  | _ => false

/-- An optional text as a cell. -/
def ofText? (s : Option String) : Cell := s.elim .null .text

/-- An optional key as a cell. -/
def ofKey? (k : Option Key) : Cell := k.elim .null .key

/-- An optional point in time as a cell. -/
def ofTimestamp? (t : Option Timestamp) : Cell := t.elim .null .timestamp

/-- The text of a text cell. -/
def text? : Cell → Option String
  | .text s => some s
  | _ => none

theorem text?_ofText? (s : Option String) : (ofText? s).text? = s := by
  cases s <;> rfl

/-- The key of a key cell. -/
def key? : Cell → Option Key
  | .key k => some k
  | _ => none

/-- The point in time of a timestamp cell. -/
def timestamp? : Cell → Option Timestamp
  | .timestamp t => some t
  | _ => none

/-- Compares two values of one type; a textual key also compares with a text. Every other
comparison is unknown. -/
def compare? : Cell → Cell → Option Ordering
  | .key a, .key b => some (compare a b)
  | .text a, .text b => some (compare a b)
  | .timestamp a, .timestamp b => some (a.compareInstant b)
  | .key (.text a), .text b => some (compare a b)
  | .text a, .key (.text b) => some (compare a b)
  | _, _ => none

/-- Whether two cells hold the same value, where points in time are the same if their instants
are. -/
def same : Cell → Cell → Bool
  | .timestamp a, .timestamp b => a.compareInstant b == .eq
  | a, b => a == b

/-- A cell as it is shown in messages: its type and its value. -/
def describe : Cell → String
  | .null => "Null"
  | .key (.int n) => "Key(Int(" ++ Numeral.write n.toInt ++ "))"
  | .key (.text s) => "Key(Text(" ++ Text.Quoted.quote s ++ "))"
  | .key (.uuid u) => "Key(Uuid(" ++ u.toText ++ "))"
  | .text s => "Text(" ++ Text.Quoted.quote s ++ ")"
  | .timestamp t => "Timestamp(" ++ t.describe ++ ")"

end Cell

end GrantLedger
