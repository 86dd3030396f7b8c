import GrantLedger.EntityKey
import GrantLedger.Row

/-!
# Records

A record is an entity of one of the four kinds as its table stores it: one optional value per
column. The class `Record R K` gives the columns of `R` as a row and reads them back, and it names
the two columns that every kind has, the identifier of key type `K` and the concurrency token.
-/

namespace GrantLedger

/-- A type of records with identifiers of type `K`. -/
class Record (R : Type) (K : outParam Type) where
  /-- The kind of the records. -/
  kind : EntityKind
  /-- The record without any value. -/
  blank : R
  /-- The identifier. -/
  id : R → Option K
  /-- Gives the record an identifier. -/
  withId : R → K → R
  /-- The concurrency token. -/
  token : R → Option String
  /-- Gives the record a concurrency token. -/
  withToken : R → Option String → R
  /-- The record as a row. -/
  toRow : R → Row
  /-- Reads a record from a row. -/
  ofRow : Row → Except StoreError R

/-- Reads a column of identifiers of type `K`. -/
def Row.readId {K : Type} [EntityKey K] (r : Row) (column : String) :
    Except StoreError (Option K) := do
  match ← r.readKey column with
  | none => return none
  | some k => return some (← EntityKey.ofKey k)

/-- Takes a column of identifiers of type `K` out. -/
def Row.takeId {K : Type} [EntityKey K] (column : String) : Row.Taking (Option K) := do
  match ← Row.takeKey column with
  | none => return none
  | some k => return some (← EntityKey.ofKey k)

theorem Row.readId_erase_of_ne {K : Type} [EntityKey K] {r : Row} {column other : String}
    (h : other ≠ column) :
    ((r.erase column).readId other : Except StoreError (Option K)) = r.readId other := by
  rw [readId, readKey_erase_of_ne h]
  rfl

theorem Row.takeId_eq {K : Type} [EntityKey K] (column : String) :
    (Row.takeId column : Row.Taking (Option K)) = Row.take Row.readId column := by
  funext r
  refine (Row.take_bind ..).trans ?_
  rw [Row.take, ExceptT.mk, readId]
  rcases r.readKey column with e | _ | k
  · rfl
  · rfl
  · change (do return some (← liftM (EntityKey.ofKey k)) : Row.Taking (Option K)) (r.erase column) =
      ((do return some (← EntityKey.ofKey k) : Except StoreError (Option K)), r.erase column)
    cases (EntityKey.ofKey k : Except StoreError K) <;> rfl

/-- An optional identifier as a cell. -/
def Cell.ofId? {K : Type} [EntityKey K] (k : Option K) : Cell :=
  Cell.ofKey? (k.map EntityKey.toKey)

/-- A text column of a record type. -/
structure TextField (R : Type) where
  /-- The name of the column. -/
  column : String
  /-- The text of a record. -/
  get : R → Option String
  /-- Gives a record a text. -/
  set : R → Option String → R

end GrantLedger
