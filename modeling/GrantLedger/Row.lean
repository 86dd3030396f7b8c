import GrantLedger.Error
import GrantLedger.OrdMap

/-!
# Rows

A `Row` is what a table stores: a finite map from column names to cells, where a missing column
reads as NULL (`Row.cell`). The readers (`Row.readText` and its siblings) give the value of a
column of an expected type and refuse a value of another type. A record is read by taking its
columns out of the row one after another (`Row.takeText` and its siblings).
-/

namespace GrantLedger

/-- A stored row. -/
structure Row where
  /-- The populated columns. -/
  cells : OrdMap String Cell
  deriving DecidableEq, Inhabited

namespace Row

/-- The row without populated columns. -/
def empty : Row := ⟨.empty⟩

/-- The row of a list of columns, where a later value of a column replaces an earlier one. -/
def ofList (l : List (String × Cell)) : Row := ⟨.ofList l⟩

/-- The value of a column. -/
def cell (r : Row) (column : String) : Cell := (r.cells.get? column).getD .null

/-- Gives a column a value. -/
def set (r : Row) (column : String) (value : Cell) : Row := ⟨r.cells.insert column value⟩

/-- Removes a column. -/
def erase (r : Row) (column : String) : Row := ⟨r.cells.erase column⟩

/-- The populated columns in the order of their names. -/
def toList (r : Row) : List (String × Cell) := r.cells.entries

/-! ## 1. What `cell` sees -/

@[simp] theorem cell_empty (column : String) : empty.cell column = .null := rfl

theorem cell_set (r : Row) (column other : String) (value : Cell) :
    (r.set column value).cell other = if other = column then value else r.cell other := by
  simp only [cell, set, OrdMap.get?_insert]
  split <;> rfl

@[simp] theorem cell_set_self (r : Row) (column : String) (value : Cell) :
    (r.set column value).cell column = value := by
  rw [cell_set, if_pos rfl]

theorem cell_set_of_ne (r : Row) {column other : String} (h : other ≠ column) (value : Cell) :
    (r.set column value).cell other = r.cell other := by
  rw [cell_set, if_neg h]

theorem cell_erase_of_ne (r : Row) {column other : String} (h : other ≠ column) :
    (r.erase column).cell other = r.cell other := by
  simp only [cell, erase, OrdMap.get?_erase_of_ne _ h]

/-! ## 2. Reading columns of a known type -/

/-- The text of a column. -/
def readText (r : Row) (column : String) : Except StoreError (Option String) :=
  match r.cell column with
  | .null => .ok none
  | .text s => .ok (some s)
  | other => .error (.validation (.columnType column "text" other))

/-- The point in time of a column. -/
def readTimestamp (r : Row) (column : String) : Except StoreError (Option Timestamp) :=
  match r.cell column with
  | .null => .ok none
  | .timestamp t => .ok (some t)
  | other => .error (.validation (.columnType column "timestamp" other))

/-- The key of a column. -/
def readKey (r : Row) (column : String) : Except StoreError (Option Key) :=
  match r.cell column with
  | .null => .ok none
  | .key k => .ok (some k)
  | other => .error (.validation (.columnType column "key" other))

variable {r : Row} {column other : String}

theorem readText_erase_of_ne (h : other ≠ column) :
    (r.erase column).readText other = r.readText other := by
  rw [readText, cell_erase_of_ne r h]
  rfl

theorem readTimestamp_erase_of_ne (h : other ≠ column) :
    (r.erase column).readTimestamp other = r.readTimestamp other := by
  rw [readTimestamp, cell_erase_of_ne r h]
  rfl

theorem readKey_erase_of_ne (h : other ≠ column) :
    (r.erase column).readKey other = r.readKey other := by
  rw [readKey, cell_erase_of_ne r h]
  rfl

/-! ## 3. Taking columns out -/

/-- A reading that takes columns out of a row. The row that is left is there also after an error. -/
abbrev Taking (α : Type) : Type := ExceptT StoreError (StateM Row) α

variable {α β : Type}

/-- What a reading answers on a row. -/
def Taking.answer (x : Taking α) (r : Row) : Except StoreError α := (x.run r).1

/-- Takes a column out, with its value as a reader gives it. -/
def take (read : Row → String → Except StoreError α) (column : String) : Taking α :=
  .mk fun r => (read r column, r.erase column)

/-- Takes a column of texts out. -/
def takeText (column : String) : Taking (Option String) := take readText column

/-- Takes a column of points in time out. -/
def takeTimestamp (column : String) : Taking (Option Timestamp) := take readTimestamp column

/-- Takes a column of keys out. -/
def takeKey (column : String) : Taking (Option Key) := take readKey column

@[simp] theorem answer_pure (a : α) (r : Row) : (pure a : Taking α).answer r = .ok a := rfl

/-- After a column has been taken out, the reading goes on without it. -/
theorem take_bind (read : Row → String → Except StoreError α) (column : String)
    (f : α → Taking β) (r : Row) :
    (take read column >>= f) r =
      match read r column with
      | .ok a => f a (r.erase column)
      | .error e => (.error e, r.erase column) := by
  change ExceptT.bindCont f (read r column) (r.erase column) = _
  cases read r column <;> rfl

theorem answer_take_bind (read : Row → String → Except StoreError α) (column : String)
    (f : α → Taking β) (r : Row) :
    (take read column >>= f).answer r =
      read r column >>= fun a => (f a).answer (r.erase column) := by
  rw [Taking.answer, ExceptT.run, take_bind]
  cases read r column <;> rfl

end Row

end GrantLedger
