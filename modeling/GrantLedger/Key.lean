import GrantLedger.Numeral
import GrantLedger.Uuid

/-!
# Keys

A `Key` is the stored form of an identifier: an integer, a text or a UUID. Keys are ordered
first by form, then by value; texts by code point. `KeyKind` names the three forms as column
types.
-/

namespace GrantLedger

/-- The form in which a table stores its keys. -/
inductive KeyKind where
  | text
  | bigint
  | uuid
  deriving DecidableEq, Repr, Inhabited

/-- The column type of a key in SQL. -/
def KeyKind.sqlType : KeyKind → String
  | .text => "TEXT"
  | .bigint => "BIGINT"
  | .uuid => "UUID"

/-- The name of a key form in settings. -/
def KeyKind.name : KeyKind → String
  | .text => "text"
  | .bigint => "bigint"
  | .uuid => "uuid"

/-- The key forms, in the order of their declaration. -/
def KeyKind.all : List KeyKind := [.text, .bigint, .uuid]

/-- Finds a key form by its name. -/
def KeyKind.ofName? (name : String) : Option KeyKind := KeyKind.all.find? (·.name == name)

/-- A stored identifier. -/
inductive Key where
  | int (value : Int64)
  | text (value : String)
  | uuid (value : Uuid)
  deriving DecidableEq, Inhabited

namespace Key

/-- The form of a key. -/
def kind : Key → KeyKind
  | .int _ => .bigint
  | .text _ => .text
  | .uuid _ => .uuid

/-- The text of a key: a decimal numeral, the text itself, or the grouped identifier. -/
def toText : Key → String
  | .int n => Numeral.write n.toInt
  | .text s => s
  | .uuid u => u.toText

/-! ## Order -/

/-- Integers before texts before UUIDs; values of one form by their own order. -/
protected def compare : Key → Key → Ordering
  | .int a, .int b => Ord.compare a b
  | .int _, _ => .lt
  | .text _, .int _ => .gt
  | .text a, .text b => Ord.compare a b
  | .text _, .uuid _ => .lt
  | .uuid a, .uuid b => Ord.compare a b
  | .uuid _, _ => .gt

instance : Ord Key := ⟨Key.compare⟩

theorem compare_def (a b : Key) : Ord.compare a b = Key.compare a b := rfl

instance : Std.OrientedOrd Key where
  eq_swap {a b} := by
    simp only [compare_def]
    cases a <;> cases b <;> simp only [Key.compare, Ordering.swap_lt, Ordering.swap_gt] <;>
      exact Std.OrientedOrd.eq_swap

instance : Std.TransOrd Key where
  isLE_trans {a b c} := by
    simp only [compare_def]
    cases a <;> cases b <;> cases c <;> simp only [Key.compare] <;>
      first
        | exact Std.TransOrd.isLE_trans
        | simp

instance : Std.LawfulEqOrd Key where
  compare_self {a} := by
    cases a <;> simp only [compare_def, Key.compare] <;> exact Std.ReflOrd.compare_self
  eq_of_compare {a b} h := by
    simp only [compare_def] at h
    cases a <;> cases b <;> simp only [Key.compare, reduceCtorEq] at h <;>
      rw [Std.LawfulEqOrd.eq_of_compare h]

end Key

end GrantLedger
