import GrantLedger.Row

/-!
# Conditions on rows

A `Filter` is a conjunction of conditions, each a test of one column. Tests follow the rules of a
database: a comparison that is unknown does not hold, and only `isNull` and `isNotNull` see NULL.
-/

namespace GrantLedger

/-- A test of one value. -/
inductive Predicate where
  | eq (value : Cell)
  | ne (value : Cell)
  | lt (value : Cell)
  | le (value : Cell)
  | gt (value : Cell)
  | ge (value : Cell)
  | isNull
  | isNotNull
  /-- A text with the given part. -/
  | contains (needle : String)
  /-- One of the given values. -/
  | oneOf (values : List Cell)
  deriving DecidableEq, Inhabited

/-- Whether a text has another one as a part. -/
def containsText (needle text : String) : Bool :=
  @decide (needle.toList <:+: text.toList) (List.instDecidableIsInfixOfDecidableEq _ _)

theorem containsText_iff {needle text : String} :
    containsText needle text = true ↔ needle.toList <:+: text.toList := by
  simp only [containsText, decide_eq_true_eq]

/-- Whether a value passes a test. -/
def Predicate.holds (p : Predicate) (value : Cell) : Bool :=
  match p with
  | .eq other => value.compare? other == some .eq
  | .ne other => (value.compare? other).any (· != .eq)
  | .lt other => value.compare? other == some .lt
  | .le other => (value.compare? other).any (· != .gt)
  | .gt other => value.compare? other == some .gt
  | .ge other => (value.compare? other).any (· != .lt)
  | .isNull => value.isNull
  | .isNotNull => !value.isNull
  | .contains needle => (value.text?).any (containsText needle)
  | .oneOf values => values.any fun other => value.compare? other == some .eq

/-- A test of one column. -/
structure Condition where
  column : String
  predicate : Predicate
  deriving DecidableEq, Inhabited

/-- Whether a row satisfies a condition. -/
def Condition.holds (c : Condition) (r : Row) : Bool := c.predicate.holds (r.cell c.column)

/-- A conjunction of conditions. Without conditions it holds of every row. -/
structure Filter where
  conditions : List Condition
  deriving DecidableEq, Inhabited

namespace Filter

/-- The filter that every row satisfies. -/
def all : Filter := ⟨[]⟩

/-- Adds a condition after the others. -/
def and (f : Filter) (column : String) (p : Predicate) : Filter :=
  ⟨f.conditions ++ [⟨column, p⟩]⟩

/-- Adds the condition that a column equals a value. -/
def eq (f : Filter) (column : String) (value : Cell) : Filter := f.and column (.eq value)

/-- Whether a row satisfies every condition. -/
def holds (f : Filter) (r : Row) : Bool := f.conditions.all (·.holds r)

end Filter

/-- Refuses a column that a kind does not have. -/
def EntityKind.checkColumn (kind : EntityKind) (column : String) : Except StoreError Unit :=
  match kind.column? column with
  | some _ => .ok ()
  | none => .error (.validation (.queryColumn column kind))

/-- Refuses a filter that names a column which the kind does not have. -/
def Filter.check (f : Filter) (kind : EntityKind) : Except StoreError Unit :=
  f.conditions.forM fun c => kind.checkColumn c.column

end GrantLedger
