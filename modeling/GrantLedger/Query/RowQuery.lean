import GrantLedger.Query.Predicate

/-!
# Ordered queries

A `RowQuery` asks for the rows that satisfy a filter, in an order, through a window. Every query
that `RowQuery.make` accepts ends with the identifier as its last term of order, so rows with
distinct identifiers stand in one order only.

In an ascending term NULL stands after all values, in a descending one before them.
-/

namespace GrantLedger

/-- The direction of a term of order. -/
inductive Direction where
  | asc
  | desc
  deriving DecidableEq, Repr, Inhabited

/-- The name of a direction. -/
def Direction.name : Direction → String
  | .asc => "asc"
  | .desc => "desc"

/-- Both directions. -/
def Direction.all : List Direction := [.asc, .desc]

/-- Finds a direction by its name. -/
def Direction.ofName? (name : String) : Option Direction := Direction.all.find? (·.name == name)

/-- One term of an order. -/
structure OrderTerm where
  column : String
  direction : Direction
  deriving DecidableEq, Inhabited

/-- Compares two values with NULL after all others. Values without a common order count as equal. -/
def Cell.compareNullsLast (a b : Cell) : Ordering :=
  match a.isNull, b.isNull with
  | true, true => .eq
  | true, false => .gt
  | false, true => .lt
  | false, false => (a.compare? b).getD .eq

/-- Compares two rows by one term. -/
def OrderTerm.compare (term : OrderTerm) (a b : Row) : Ordering :=
  let o := (a.cell term.column).compareNullsLast (b.cell term.column)
  match term.direction with
  | .asc => o
  | .desc => o.swap

/-- Compares two rows by a list of terms, an earlier term before a later one. -/
def compareBy : List OrderTerm → Row → Row → Ordering
  | [], _, _ => .eq
  | term :: rest, a, b => (term.compare a b).then (compareBy rest a b)

/-- A query for rows. -/
structure RowQuery where
  filter : Filter
  order : List OrderTerm
  /-- How many rows to pass over. -/
  offset : Nat
  /-- How many rows to return at most. -/
  limit : Option Nat
  deriving DecidableEq

namespace RowQuery

/-- The terms of an order with the identifier as the last one. -/
def withTieBreak (order : List OrderTerm) : List OrderTerm :=
  if order.getLast?.map (·.column) = some "id" then order else order ++ [⟨"id", .asc⟩]

/-- A query for a kind, if the kind has every column that the query names. -/
def make (kind : EntityKind) (filter : Filter) (order : List OrderTerm) :
    Except StoreError RowQuery := do
  filter.check kind
  order.forM fun term => kind.checkColumn term.column
  return { filter, order := withTieBreak order, offset := 0, limit := none }

/-- Restricts a query to a window. -/
def window (q : RowQuery) (offset : Nat) (limit : Option Nat) : RowQuery :=
  { q with offset, limit }

/-- Compares two rows by the order of a query. -/
def compare (q : RowQuery) (a b : Row) : Ordering := compareBy q.order a b

/-- Places an element into a list in falling order, behind the elements that it stands before. -/
def place {α : Type} (precedes : α → α → Bool) (x : α) : List α → List α
  | [] => [x]
  | y :: rest => if precedes x y then y :: place precedes x rest else x :: y :: rest

/-- Sorts a list by placing one element after the other from the end; elements of which neither
stands before the other keep their order. -/
def sortBy {α : Type} (precedes : α → α → Bool) (l : List α) : List α :=
  (l.foldl (fun sorted x => place precedes x sorted) []).reverse

/-- Sorts rows by the order of a query; rows that compare equal keep their order. -/
def sort (q : RowQuery) (rows : List Row) : List Row :=
  sortBy (fun a b => q.compare a b == .lt) rows

/-- The part of a list inside a window. -/
def slice {α : Type} (offset : Nat) (limit : Option Nat) (l : List α) : List α :=
  match limit with
  | none => l.drop offset
  | some n => (l.drop offset).take n

/-- The rows of a table that satisfy a query, in its order. -/
def answers (q : RowQuery) (rows : List Row) : List Row := q.sort (rows.filter q.filter.holds)

/-- The answer of a query over the rows of a table: those inside its window. -/
def run (q : RowQuery) (rows : List Row) : List Row := slice q.offset q.limit (q.answers rows)

/-! ## The size of a window -/

theorem length_slice_some {α : Type} (offset n : Nat) (l : List α) :
    (slice offset (some n) l).length = min n (l.length - offset) := by
  simp [slice]

theorem length_run_window (q : RowQuery) (offset n : Nat) (rows : List Row) :
    ((q.window offset (some n)).run rows).length = min n ((q.answers rows).length - offset) :=
  length_slice_some offset n _

end RowQuery

/-- A query for entities: a filter, an order and a window. -/
structure EntityQuery where
  filter : Filter := .all
  order : List OrderTerm := []
  skip : Nat := 0
  take : Option Nat := none

/-- The query for rows of a kind that a query for entities comes to. -/
def EntityQuery.toRowQuery (q : EntityQuery) (kind : EntityKind) : Except StoreError RowQuery :=
  (RowQuery.make kind q.filter q.order).map (·.window q.skip q.take)

end GrantLedger
