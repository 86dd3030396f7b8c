import GrantLedger.Store.Basic

/-!
# Queries page by page

A query for entities is answered in pages, each read in a session of its own. A `Cursor` says where
the next page begins. Reading a page moves it on (`readPage`); a page with fewer rows than it may
hold is the last one, and a page that cannot be decoded ends the query without any of its entities.

`stream` reads all pages with no write in between. It ends because every full page leaves fewer rows
behind the cursor.
-/

namespace GrantLedger.Store

/-- A place in the answer of a query. -/
structure Cursor where
  /-- How many rows lie before the next page. -/
  offset : Nat
  /-- How many rows the query may still return. -/
  remaining : Option Nat
  /-- Whether the last page has been read. -/
  exhausted : Bool
  deriving DecidableEq, Repr

namespace Cursor

/-- The cursor before the first page. -/
def start (skip : Nat) (take : Option Nat) : Cursor := ⟨skip, take, false⟩

/-- Whether no page is left. -/
def isDone (c : Cursor) : Bool := c.exhausted || c.remaining == some 0

/-- How many rows the next page may hold. A page holds at least one row. -/
def limit (c : Cursor) (pageSize : Nat) : Nat :=
  match c.remaining with
  | none => max 1 pageSize
  | some r => min r (max 1 pageSize)

/-- The cursor after a page with a number of rows. -/
def next (c : Cursor) (pageSize fetched : Nat) : Cursor :=
  { offset := c.offset + fetched
    remaining := c.remaining.map (· - fetched)
    exhausted := decide (fetched < c.limit pageSize) }

theorem limit_pos {c : Cursor} (h : c.isDone = false) (pageSize : Nat) : 0 < c.limit pageSize := by
  rcases c with ⟨offset, _ | r, exhausted⟩
  · simp only [limit]; omega
  · simp only [isDone, Bool.or_eq_false_iff, beq_eq_false_iff_ne, ne_eq, Option.some.injEq] at h
    simp only [limit]; omega

/-- How far a cursor is from the end of an answer with a number of rows. -/
def distance (c : Cursor) (total : Nat) : Nat :=
  if c.exhausted then 0 else total - c.offset + 1

theorem distance_next (c : Cursor) (pageSize fetched total : Nat) :
    (c.next pageSize fetched).distance total =
      if fetched < c.limit pageSize then 0 else total - (c.offset + fetched) + 1 := by
  simp [distance, next]

/-- A page that holds as many rows of the answer as it may brings the cursor closer to the end. -/
theorem distance_next_lt {c : Cursor} (h : c.isDone = false) (pageSize total : Nat) :
    (c.next pageSize (min (c.limit pageSize) (total - c.offset))).distance total <
      c.distance total := by
  have hpos := limit_pos h pageSize
  have hex : c.exhausted = false := by
    simp only [isDone, Bool.or_eq_false_iff] at h; exact h.1
  have hd : c.distance total = total - c.offset + 1 := by simp [distance, hex]
  rw [distance_next, hd]
  split <;> omega

end Cursor

variable {M R K : Type} [EntityKey K] [Record R K] [Model M R K]

/-- The rows of the page at a cursor, out of the rows of a table. -/
def pageRows (q : RowQuery) (pageSize : Nat) (c : Cursor) (rows : List Row) : List Row :=
  (q.window c.offset (some (c.limit pageSize))).run rows

theorem length_pageRows (q : RowQuery) (pageSize : Nat) (c : Cursor) (rows : List Row) :
    (pageRows q pageSize c rows).length =
      min (c.limit pageSize) ((q.answers rows).length - c.offset) :=
  RowQuery.length_run_window q c.offset (c.limit pageSize) rows

/-- The entities of the page at a cursor, and the cursor after it. -/
def readPage (M : Type) {R K : Type} [Record R K] [Model M R K] (q : RowQuery) (pageSize : Nat)
    (c : Cursor) (rows : List Row) : Except StoreError (List M × Cursor) :=
  let page := pageRows q pageSize c rows
  (page.mapM decode).map fun entities => (entities, c.next pageSize page.length)

/-- What a query yields: entities, and the error that ended it early. -/
structure Streamed (M : Type) where
  entities : List M := []
  fault : Option StoreError := none

/-- A query that ends with an error before it yields an entity. -/
def Streamed.refused (e : StoreError) : Streamed M := { fault := some e }

/-- What a query yields whose pages begin with further entities. -/
def Streamed.prepend (entities : List M) (s : Streamed M) : Streamed M :=
  { s with entities := entities ++ s.entities }

/-- The entities of a query that was not ended early. -/
def Streamed.toExcept (s : Streamed M) : Except StoreError (List M) :=
  match s.fault with
  | some e => .error e
  | none => .ok s.entities

/-- Everything from a cursor on, with no write between the pages. -/
def streamFrom (M : Type) {R K : Type} [Record R K] [Model M R K] (q : RowQuery) (pageSize : Nat)
    (rows : List Row) (c : Cursor) : Streamed M :=
  if c.isDone then {}
  else
    match (pageRows q pageSize c rows).mapM decode with
    | .error e => .refused e
    | .ok entities =>
      (streamFrom M q pageSize rows
        (c.next pageSize (pageRows q pageSize c rows).length)).prepend entities
termination_by c.distance (q.answers rows).length
decreasing_by
  rename_i h
  rw [length_pageRows]
  exact Cursor.distance_next_lt (Bool.eq_false_iff.2 h) pageSize _

/-- Everything that a query yields. A query that may not return any row needs no session. -/
def stream (M : Type) {R K : Type} [Record R K] [Model M R K] (pageSize : Nat) (q : EntityQuery) :
    Request (Streamed M) :=
  match RowQuery.make (kindOf M) q.filter q.order with
  | .error e => .settled (.ok (.refused e))
  | .ok query =>
    let start := Cursor.start q.skip q.take
    if start.isDone then .settled (.ok {})
    else .reading fun t => .ok (streamFrom M query pageSize (t.rows (kindOf M)) start)

/-- The entities that answer a query. -/
def list (M : Type) {R K : Type} [Record R K] [Model M R K] (pageSize : Nat) (q : EntityQuery) :
    Request (List M) :=
  do (← stream M pageSize q).toExcept

/-- The entities that satisfy a filter, by ascending identifier. -/
def fetchAll (M : Type) {R K : Type} [Record R K] [Model M R K] (pageSize : Nat) (filter : Filter) :
    Request (List M) :=
  list M pageSize { filter }

end GrantLedger.Store
